import LocalPlane.RowInvariants
import LocalPlane.PlainRequests

/-!
# Who opened an attempt

A request opens at most one recovery attempt, and every request has a number of its own.
So an attempt is known by its opener, in every world a run may leave.
-/

set_option linter.dupNamespace false

namespace LocalPlane

open Interleaved Interleaved.Contract

/-- The requests that opened the attempts of a Run, in the order the attempts were opened. -/
def Rows.openers (x : Rows) : List RequestId := x.attempts.map (·.openedBy)

theorem Rows.openers_reattempt {x : Rows} {openedBy : RequestId} {update : AttemptColumns → AttemptColumns}
    (hu : ∀ a, (update a).openedBy = a.openedBy) : (x.reattempt openedBy update).openers = x.openers := by
  unfold Rows.reattempt
  split
  · rfl
  · next found hf =>
    have hfound : found.openedBy = openedBy := by simpa using List.find?_some hf
    simp only [Rows.openers,List.map_map]
    refine List.map_congr_left fun b _ => ?_
    by_cases ho : b.openedBy = openedBy
    · simp [ho,hu,hfound]
    · simp [ho]

/-- A commit adds its own request to the openers, or nobody. -/
theorem Commit.openers_rows (c : Commit) (i : RequestId) (x : Rows) :
    (c.rows i x).openers = x.openers ∨ c.plain = false ∧ (c.rows i x).openers = x.openers ++ [i] := by
  cases c with
  | openAttempt => exact .inr ⟨rfl,List.map_append⟩
  | resolve read statement note => exact .inr ⟨rfl,List.map_append⟩
  | spendRecovery correlation =>
    left
    simp only [Commit.rows]
    split
    · rfl
    · exact Rows.openers_reattempt fun _ => rfl
  | writeCheckpoint correlation => left; simp only [Commit.rows]; split <;> rfl
  | recordEvidence read => exact .inl (Rows.openers_reattempt fun _ => rfl)
  | recordRecovery outcome => exact .inl (Rows.openers_reattempt fun _ => rfl)
  | recordRecoveryVerification read => exact .inl (Rows.openers_reattempt fun _ => rfl)
  | completeRecovery outcome => exact .inl (Rows.openers_reattempt fun _ => rfl)
  | settleRetry outcome => exact .inl (Rows.openers_reattempt fun _ => rfl)
  | refuseRecovery code => exact .inl (Rows.openers_reattempt fun _ => rfl)
  | interruptAttempt openedBy unknown => exact .inl (Rows.openers_reattempt fun _ => rfl)
  | _ => exact .inl rfl

namespace World

variable {w v : World} {i j : RequestId} {op : Op}

/-- The requests that opened an attempt of this Run. -/
def openers (w : World) (r : RunId) : List RequestId := (w.files r).rows.openers

theorem Heard.openers {caller : Option RequestId} (h : Heard caller w v) (r : RunId) : v.openers r = w.openers r := by
  obtain ⟨new,hn,_⟩ := h.rows r
  rw [World.openers,hn]
  rfl

/-- One operation makes its request an opener of one more attempt at most, and only if it enters something. -/
theorem Moved.openers (h : Moved i op w v) : v.requests = w.requests ∧
    ∀ r, v.openers r = w.openers r ∨ ¬op.Plain ∧ v.openers r = w.openers r ++ [i] := by
  cases h with
  | heard v h => exact ⟨h.requests,fun r => .inl (h.openers r)⟩
  | acquired r locks hop ha hl => exact ⟨rfl,fun _ => .inl rfl⟩
  | served hop => exact ⟨rfl,fun _ => .inl rfl⟩
  | committed r c f hop hr hf =>
    subst hop
    refine ⟨rfl,fun r' => ?_⟩
    show ((w.setFile r f).files r').rows.openers = _ ∨ ¬(c.plain = true) ∧ ((w.setFile r f).files r').rows.openers = _
    rw [rows_setFile,(Commit.run_ok hf).2]
    by_cases hr' : r' = r
    · subst hr'
      rw [if_pos rfl]
      rcases c.openers_rows i (w.files r').rows with hsame | ⟨hplain,hmore⟩
      · exact .inl hsame
      · exact .inr ⟨by simp [hplain],hmore⟩
    · rw [if_neg hr']
      exact .inl rfl

end World

/-- What requests owe each other about the attempts they open: nobody opens one for another, and
nobody opens a second. -/
def entering : engine.Contract where
  regime := .free
  Inv w := ∀ r, (World.openers w r).Nodup ∧ ∀ j ∈ World.openers w r, j < (World.requests w).length
  Rely j w w' := (World.requests w).length ≤ (World.requests w').length ∧
    ∀ r, j ∉ World.openers w r → j ∉ World.openers w' r
  Licence i op w := i < (World.requests w).length ∧ (Op.Plain op ∨ ∀ r, i ∉ World.openers w r)
  Post _ _ _ := True

namespace World

variable {w w' v : World} {i j : RequestId} {op : Op} {q : Request}

theorem enter_openers (h : enter q w = some (i,w')) : i = w.requests.length ∧
    w'.requests.length = w.requests.length + 1 ∧ ∀ r, w'.openers r = w.openers r := by
  unfold enter at h
  repeat' split at h
  all_goals cases h
  all_goals exact ⟨rfl,by simp,fun _ => rfl⟩

theorem entering_kept (hI : entering.Inv w) (hl : entering.Licence i op w) (h : Moved i op w v) :
    entering.Inv v ∧ ∀ j, j ≠ i → entering.Rely j w v := by
  obtain ⟨hlt,hlicence⟩ := hl
  obtain ⟨hrequests,hopeners⟩ := h.openers
  refine ⟨fun r => ?_,fun j hj => ⟨by rw [hrequests],fun r hnot => ?_⟩⟩
  · obtain ⟨hnodup,hbound⟩ := hI r
    rcases hopeners r with hsame | ⟨hplain,hmore⟩
    · rw [hsame,hrequests]
      exact ⟨hnodup,hbound⟩
    · have hnew : i ∉ w.openers r := (hlicence.resolve_left hplain) r
      rw [hmore,hrequests]
      refine ⟨List.nodup_append.mpr ⟨hnodup,List.nodup_singleton i,fun a ha b hb heq => ?_⟩,fun k hk => ?_⟩
      · exact hnew (List.mem_singleton.mp hb ▸ heq ▸ ha)
      · rcases List.mem_append.mp hk with hk | hk
        · exact hbound k hk
        · exact List.mem_singleton.mp hk ▸ hlt
  · rcases hopeners r with hsame | ⟨_,hmore⟩
    · rwa [hsame]
    · rw [hmore]
      simp [hnot,hj]

end World

theorem entering_lawful : entering.Lawful where
  refl _ _ := ⟨Nat.le_refl _,fun _ h => h⟩
  trans h h' := ⟨Nat.le_trans h.1 h'.1,fun r hnot => h'.2 r (h.2 r hnot)⟩
  initial {w} hw r := by
    have hnone : World.openers w r = [] := by
      obtain ⟨_,_,_,_,_,_,_,hattempts,_⟩ := World.Initial.pristine hw r
      simp [World.openers,Rows.openers,RunFile.rows,hattempts]
    rw [hnone]
    simp
  step {i op w} a hI hl _ := World.entering_kept hI hl (World.perform_moved i op a w)
  enter {q w i w'} hI he := by
    obtain ⟨_,hlength,hsame⟩ := World.enter_openers he
    refine ⟨fun r => ?_,fun j _ => ⟨hlength ▸ Nat.le_succ _,fun r hnot => by rwa [hsame r]⟩⟩
    rw [hsame r]
    exact ⟨(hI r).1,fun k hk => hlength ▸ Nat.lt_succ_of_lt ((hI r).2 k hk)⟩
  outer {e w w'} hI _ he := by
    have hheard := World.outer_heard he
    refine ⟨fun r => ?_,fun j => ⟨by rw [hheard.requests],fun r hnot => by rwa [hheard.openers r]⟩⟩
    rw [hheard.openers r,hheard.requests]
    exact hI r
  crash hI _ := hI

section

variable {α : Type} {p : Service α} {i : RequestId} {w : World}

/-- What enters nothing is free to go. -/
theorem entering_plain (hp : p.All Op.Plain) (hi : i < w.requests.length) : entering.Ok i p (fun _ _ => True) w := by
  induction p generalizing w with
  | ret x => exact fun _ _ _ => trivial
  | act op next ih =>
    intro (v : World) hr hI
    have hlt : i < v.requests.length := Nat.lt_of_lt_of_le hi hr.1
    refine ⟨⟨hlt,.inl hp.1⟩,fun a _ => ih _ (hp.2 _) ?_⟩
    have hrequests : (World.perform i op a v).2.requests = v.requests := (World.perform_moved i op a v).openers.1
    exact hrequests ▸ hlt

/-- What enters one thing at most is free to do so while its request has opened nothing. -/
theorem entering_once (hp : p.Once Op.Plain) (hi : i < w.requests.length) (hnone : ∀ r, i ∉ w.openers r) :
    entering.Ok i p (fun _ _ => True) w := by
  induction p generalizing w with
  | ret x => exact fun _ _ _ => trivial
  | act op next ih =>
    intro (v : World) hr hI
    have hlt : i < v.requests.length := Nat.lt_of_lt_of_le hi hr.1
    have hunopened : ∀ r, i ∉ v.openers r := fun r => hr.2 r (hnone r)
    refine ⟨⟨hlt,.inr hunopened⟩,fun a _ => ?_⟩
    obtain ⟨hrequests,hopeners⟩ := (World.perform_moved i op a v).openers
    have hlt' : i < (World.perform i op a v).2.requests.length := hrequests ▸ hlt
    rcases hp with ⟨hop,hrest⟩ | hrest
    · have hstill : ∀ r, i ∉ (World.perform i op a v).2.openers r := by
        intro r
        rcases hopeners r with hsame | ⟨hplain,_⟩
        · rw [hsame]
          exact hunopened r
        · exact absurd hop hplain
      exact ih _ (hrest _) hlt' hstill
    · exact entering_plain (hrest _) hlt'

end

theorem entering_sound : entering.Sound where
  toLawful := entering_lawful
  started {q w i w'} hI he := by
    obtain ⟨rfl,hlength,hsame⟩ := World.enter_openers he
    refine entering_once (Service.program_once _ q) (hlength ▸ Nat.lt_succ_self _) fun r hmem => ?_
    rw [hsame r] at hmem
    exact Nat.lt_irrefl _ ((hI r).2 _ hmem)

/-- In every world a run may leave, no two attempts of a Run have the same opener. -/
theorem openers_distinct {c : engine.Config} (hc : Reach .free c) (r : RunId) : (World.openers c.world r).Nodup :=
  ((entering_sound.holds hc).1 r).1

end LocalPlane
