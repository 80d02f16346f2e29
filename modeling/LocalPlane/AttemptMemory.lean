import LocalPlane.HelperService

/-!
# One dispatch for each attempt

An attempt is meant to be dispatched at most once, and a repeat answered with what that
dispatch came to. What is remembered is looked up first and written last, is forgotten with
age, and is not written at all when a handling raises; in every run in which no attempt is
looked up while one of these has hidden an earlier handling of it, it is so.
-/

set_option linter.dupNamespace false

namespace LocalPlane
namespace Helper

/-- Past its lookup, and not yet remembered. -/
def Stage.active : Stage → Bool
  | .missed | .checked _ | .decided _ => true
  | _ => false

def Stage.isAnswered : Stage → Bool
  | .answered _ _ => true
  | _ => false

structure AtMostOnce (s : State) : Prop where
  once : ∀ a, s.frames.countP (·.request.attemptId = a) ≤ 1
  repeats : ∀ t ∈ s.threads, ∀ result replayed, t.stage = .answered result replayed → ∀ f ∈ s.frames,
    f.request.attemptId = t.request.attemptId → f.result = some result

/-- No handling of the attempt is between its lookup and its record, none raised after it sent its
frame, and none has been answered and forgotten. -/
def Clear (s : State) (a : AttemptId) : Prop :=
  ∀ t ∈ s.threads, t.request.attemptId = a →
    t.stage.active = false ∧ t.stage ≠ .raised true ∧ (t.stage.isAnswered → (retained s.memory a).isSome)

instance (s : State) (a : AttemptId) : Decidable (Clear s a) := inferInstanceAs (Decidable (∀ _ ∈ _, _ → _))

/-- An attempt is looked up only when nothing of it is hidden. -/
def Unhidden (s : State) : Act → Prop
  | .lookup i => ∀ t ∈ s.threads[i]?, Clear s t.request.attemptId
  | _ => True

instance (s : State) : (a : Act) → Decidable (Unhidden s a)
  | .lookup i => inferInstanceAs (Decidable (∀ t ∈ s.threads[i]?, Clear s t.request.attemptId))
  | .submit _ | .check _ _ | .dispatch _ _ _ _ | .remember _ => .isTrue trivial

instance : ∀ (s : machine.State) (a : machine.Act), Decidable (Unhidden s a) := fun (s : State) (a : Act) =>
  inferInstanceAs (Decidable (Unhidden s a))

variable {s s' : State} {i j : ℕ} {t u : Thread} {a : AttemptId} {request : SetMtu} {stage : Stage} {result : MutationResult}

theorem retained_none {memory : List (AttemptId × MutationResult)} :
    retained memory a = none ↔ ∀ e ∈ memory, e.1 ≠ a := by simp [retained]

theorem retained_some {memory : List (AttemptId × MutationResult)} (h : retained memory a = some result) :
    (a,result) ∈ memory := by
  obtain ⟨e,he,rfl⟩ := Option.map_eq_some_iff.mp h
  have hid : e.1 = a := by simpa using List.find?_some he
  exact hid ▸ List.mem_of_find?_eq_some he

theorem mem_remember {memory : List (AttemptId × MutationResult)} {e : AttemptId × MutationResult}
    (h : e ∈ remember memory a result) : e = (a,result) ∨ e ∈ memory := by
  have h' := List.mem_of_mem_drop h
  split at h'
  · obtain ⟨x,hx,rfl⟩ := List.mem_map.mp h'
    by_cases hid : x.1 = a
    · exact .inl (if_pos hid)
    · exact .inr (by simpa [hid] using hx)
  · rcases List.mem_append.mp h' with h' | h'
    · exact .inr h'
    · exact .inl (by simpa using h')

/-- What the handlings of one attempt have in common at every moment. -/
structure Orderly (s : State) : Prop where
  sole : ∀ (i j : ℕ) (t u : Thread), s.threads[i]? = some t → s.threads[j]? = some u →
    t.request.attemptId = u.request.attemptId → t.stage.active → u.stage.active → i = j
  unsent : ∀ t ∈ s.threads, (t.stage = .missed ∨ ∃ link, t.stage = .checked link) → ∀ f ∈ s.frames,
    f.request.attemptId ≠ t.request.attemptId
  decided : ∀ t ∈ s.threads, ∀ result, t.stage = .decided result → ∀ f ∈ s.frames,
    f.request.attemptId = t.request.attemptId → f.result = some result
  first : ∀ t ∈ s.threads, t.stage.active → (∀ e ∈ s.memory, e.1 ≠ t.request.attemptId) ∧
    ∀ u ∈ s.threads, u.request.attemptId = t.request.attemptId → u.stage.isAnswered = false
  answered : ∀ t ∈ s.threads, ∀ result replayed, t.stage = .answered result replayed → ∀ f ∈ s.frames,
    f.request.attemptId = t.request.attemptId → f.result = some result
  memory : ∀ e ∈ s.memory, ∀ f ∈ s.frames, f.request.attemptId = e.1 → f.result = some e.2
  sent : ∀ f ∈ s.frames, ∃ t ∈ s.threads, t.request.attemptId = f.request.attemptId ∧
    (t.stage.isAnswered ∨ t.stage = .raised true ∨ ∃ result, t.stage = .decided result)
  once : ∀ a, s.frames.countP (·.request.attemptId = a) ≤ 1

namespace Orderly

/-- Every thread after a step is the one that moved, or was there before at its own place. -/
theorem get_set {ts : List Thread} {x : Thread} (h : (ts.set i t)[j]? = some x) :
    j = i ∧ x = t ∨ j ≠ i ∧ ts[j]? = some x := by
  rw [List.getElem?_set] at h
  split at h
  · next hij =>
    split at h
    · cases h; exact .inl ⟨hij.symm,rfl⟩
    · cases h
  · next hij => exact .inr ⟨Ne.symm hij,h⟩

theorem mem_set {ts : List Thread} {x : Thread} (h : x ∈ ts.set i t) : x = t ∨ x ∈ ts := by
  obtain ⟨j,hj⟩ := List.mem_iff_getElem?.mp h
  rcases get_set hj with ⟨_,rfl⟩ | ⟨_,hx⟩
  · exact .inl rfl
  · exact .inr (List.mem_of_getElem? hx)

theorem mem_set_self {ts : List Thread} (hi : ts[i]? = some u) : t ∈ ts.set i t := by
  obtain ⟨hlt,_⟩ := List.getElem?_eq_some_iff.mp hi
  exact List.mem_iff_getElem?.mpr ⟨i,by simp [hlt]⟩

theorem mem_set_ne {ts : List Thread} {x : Thread} (hi : ts[i]? = some u) (hx : x ∈ ts) (hne : x ≠ u) :
    x ∈ ts.set i t := by
  obtain ⟨j,hj⟩ := List.mem_iff_getElem?.mp hx
  have hij : i ≠ j := fun h => hne (by subst h; exact Option.some.inj (hj.symm.trans hi))
  exact List.mem_iff_getElem?.mpr ⟨j,by rw [List.getElem?_set,if_neg hij]; exact hj⟩

/-- A thread of an attempt that nothing else handles moves on, and neither frame nor memory does. -/
theorem move (h : Orderly s) (hi : s.threads[i]? = some u) (hid : t.request.attemptId = u.request.attemptId)
    (hsole : t.stage.active → u.stage.active ∨ Clear s u.request.attemptId)
    (hfirst : t.stage.active → (∀ e ∈ s.memory, e.1 ≠ u.request.attemptId) ∧
      ∀ x ∈ s.threads, x.request.attemptId = u.request.attemptId → x.stage.isAnswered = false)
    (hunsent : t.stage = .missed ∨ (∃ link, t.stage = .checked link) ∨ (∃ result, t.stage = .decided result) →
      ∀ f ∈ s.frames, f.request.attemptId ≠ u.request.attemptId)
    (hanswered : ∀ result replayed, t.stage = .answered result replayed → (u.request.attemptId,result) ∈ s.memory)
    (hsent : ¬u.stage.isAnswered ∧ u.stage ≠ .raised true ∧ ∀ result, u.stage ≠ .decided result) :
    Orderly { s with threads := s.threads.set i t } where
  sole j k x y hj hk hxy hx hy := by
    have hother : ∀ {k y}, k ≠ i → s.threads[k]? = some y → y.request.attemptId = t.request.attemptId →
        t.stage.active → y.stage.active → False := by
      intro k y hki hk hyt ht hy
      rcases hsole ht with hu | hclear
      · exact hki (h.sole k i y u hk hi (hyt.trans hid) hy hu)
      · have hinactive := (hclear y (List.mem_of_getElem? hk) (hyt.trans hid)).1
        rw [hy] at hinactive; cases hinactive
    rcases get_set hj with ⟨rfl,rfl⟩ | ⟨hji,hj'⟩ <;> rcases get_set hk with ⟨rfl,rfl⟩ | ⟨hki,hk'⟩
    · rfl
    · exact (hother hki hk' hxy.symm hx hy).elim
    · exact (hother hji hj' hxy hy hx).elim
    · exact h.sole j k x y hj' hk' hxy hx hy
  unsent x hx hstage f hf := by
    rcases mem_set hx with rfl | hx
    · rw [hid]; exact hunsent (hstage.imp_right .inl) f hf
    · exact h.unsent x hx hstage f hf
  decided x hx result hstage f hf hfx := by
    rcases mem_set hx with rfl | hx
    · exact absurd (hfx.trans hid) (hunsent (.inr (.inr ⟨result,hstage⟩)) f hf)
    · exact h.decided x hx result hstage f hf hfx
  first x hx hactive := by
    have hnot : ∀ {y : Thread}, y = t → y.stage.isAnswered → ∃ e ∈ s.memory, e.1 = u.request.attemptId := by
      rintro y rfl hy
      cases hs : y.stage with
      | answered result replayed => exact ⟨_,hanswered result replayed hs,rfl⟩
      | _ => simp [hs,Stage.isAnswered] at hy
    rcases mem_set hx with rfl | hx
    · obtain ⟨hm,ha⟩ := hfirst hactive
      refine ⟨fun e he => hid ▸ hm e he,fun y hy hyx => eq_false_of_ne_true fun hya => ?_⟩
      rcases mem_set hy with rfl | hy
      · obtain ⟨e,he,hea⟩ := hnot rfl hya
        exact hm e he hea
      · rw [ha y hy (hyx.trans hid)] at hya; cases hya
    · obtain ⟨hm,ha⟩ := h.first x hx hactive
      refine ⟨hm,fun y hy hyx => eq_false_of_ne_true fun hya => ?_⟩
      rcases mem_set hy with rfl | hy
      · obtain ⟨e,he,hea⟩ := hnot rfl hya
        exact hm e he (hea.trans (hid.symm.trans hyx))
      · rw [ha y hy hyx] at hya; cases hya
  answered x hx result replayed hstage f hf hfx := by
    rcases mem_set hx with rfl | hx
    · exact h.memory _ (hanswered result replayed hstage) f hf (hfx.trans hid)
    · exact h.answered x hx result replayed hstage f hf hfx
  memory := h.memory
  sent f hf := by
    obtain ⟨x,hx,hxf,hstage⟩ := h.sent f hf
    refine ⟨x,mem_set_ne hi hx ?_,hxf,hstage⟩
    rintro rfl
    rcases hstage with hs | hs | ⟨result,hs⟩
    · exact hsent.1 hs
    · exact hsent.2.1 hs
    · exact hsent.2.2 result hs
  once := h.once

theorem submit (h : Orderly s) (ht : t.stage = .received ∨ t.stage = .raised false) :
    Orderly { s with threads := s.threads ++ [t] } := by
  have hinactive : t.stage.active = false ∧ t.stage.isAnswered = false := by rcases ht with ht | ht <;> simp [ht,Stage.active,Stage.isAnswered]
  have hget : ∀ {j : ℕ} {x : Thread}, (s.threads ++ [t])[j]? = some x → x.stage.active → s.threads[j]? = some x := by
    intro j x hj hx
    rw [List.getElem?_append] at hj
    split at hj
    · exact hj
    · have hxt := List.mem_of_getElem? hj
      cases List.mem_singleton.mp hxt
      rw [hinactive.1] at hx; cases hx
  have hmem : ∀ {x : Thread}, x ∈ s.threads ++ [t] → x = t ∨ x ∈ s.threads := fun hx => by
    rcases List.mem_append.mp hx with hx | hx
    · exact .inr hx
    · exact .inl (List.mem_singleton.mp hx)
  refine ⟨fun j k x y hj hk hxy hx hy => h.sole j k x y (hget hj hx) (hget hk hy) hxy hx hy,
    fun x hx hstage => ?_,fun x hx result hstage => ?_,fun x hx hactive => ?_,fun x hx result replayed hstage => ?_,
    h.memory,fun f hf => ?_,h.once⟩
  · rcases hmem hx with rfl | hx
    · rcases ht with ht | ht <;> simp [ht] at hstage
    · exact h.unsent x hx hstage
  · rcases hmem hx with rfl | hx
    · rcases ht with ht | ht <;> simp [ht] at hstage
    · exact h.decided x hx result hstage
  · rcases hmem hx with rfl | hx
    · rw [hinactive.1] at hactive; cases hactive
    · obtain ⟨hm,ha⟩ := h.first x hx hactive
      refine ⟨hm,fun y hy hyx => ?_⟩
      rcases hmem hy with rfl | hy
      · exact hinactive.2
      · exact ha y hy hyx
  · rcases hmem hx with rfl | hx
    · rcases ht with ht | ht <;> simp [ht] at hstage
    · exact h.answered x hx result replayed hstage
  · obtain ⟨x,hx,hstage⟩ := h.sent f hf
    exact ⟨x,List.mem_append_left _ hx,hstage⟩

theorem lookup (h : Orderly s) (hi : s.threads[i]? = some ⟨request,.received⟩) (hc : Clear s request.attemptId) :
    ∀ s', Helper.step (.lookup i) s = some s' → Orderly s' := by
  intro s' hs
  simp only [step,hi] at hs
  have hidle : ¬(⟨request,.received⟩ : Thread).stage.isAnswered ∧ (Stage.received ≠ .raised true) ∧
      ∀ result, Stage.received ≠ .decided result := by simp [Stage.isAnswered]
  cases hr : retained s.memory request.attemptId with
  | some result =>
    simp only [hr,Option.some.injEq] at hs
    subst hs
    refine h.move hi rfl (fun ht => ?_) (fun ht => ?_) (by simp) (fun _ _ he => ?_) hidle
    · cases ht
    · cases ht
    · cases he; exact retained_some hr
  | none =>
    simp only [hr,Option.some.injEq] at hs
    subst hs
    have hanswered : ∀ x ∈ s.threads, x.request.attemptId = request.attemptId → x.stage.isAnswered = false :=
      fun x hx hxr => eq_false_of_ne_true fun ha => by simpa [hr] using (hc x hx hxr).2.2 ha
    refine h.move hi rfl (fun _ => .inr hc) (fun _ => ⟨retained_none.mp hr,hanswered⟩) (fun _ f hf hfr => ?_) (by simp) hidle
    -- a frame of this attempt would have left a handling that the lookup is not allowed to meet
    obtain ⟨x,hx,hxf,hstage⟩ := h.sent f hf
    obtain ⟨hinactive,hraised,_⟩ := hc x hx (hxf.trans hfr)
    rcases hstage with ha | hs | ⟨result,hs⟩
    · rw [hanswered x hx (hxf.trans hfr)] at ha; cases ha
    · exact hraised hs
    · rw [hs] at hinactive; cases hinactive

/-- A thread past its lookup moves on without sending. -/
theorem progress (h : Orderly s) (hi : s.threads[i]? = some ⟨request,stage⟩)
    (hstage : stage = .missed ∨ ∃ link, stage = .checked link) {stage' : Stage}
    (hs : (∃ link, stage' = .checked link) ∨ (∃ result, stage' = .decided result) ∨ stage' = .raised false) :
    Orderly (s.set i request stage') := by
  have hmem := List.mem_of_getElem? hi
  have hactive : stage.active := by rcases hstage with rfl | ⟨link,rfl⟩ <;> rfl
  refine h.move hi rfl (fun _ => .inl hactive) (fun _ => h.first _ hmem hactive) (fun _ => h.unsent _ hmem hstage)
    (fun result replayed he => ?_) ?_
  · have he' : stage' = .answered result replayed := he
    rcases hs with ⟨_,rfl⟩ | ⟨_,rfl⟩ | rfl <;> cases he'
  · rcases hstage with rfl | ⟨link,rfl⟩ <;> simp [Stage.isAnswered]

/-- The one frame of an attempt, with what its handling concluded. -/
theorem dispatch (h : Orderly s) {link : LinkFacts} (hi : s.threads[i]? = some ⟨request,.checked link⟩)
    {verdict : Netlink.Verdict} {concluded : Option MutationResult}
    (hstage : (∃ result, concluded = some result ∧ stage = .decided result) ∨ concluded = none ∧ stage = .raised true) :
    Orderly { s.set i request stage with frames := ⟨request,verdict,concluded⟩ :: s.frames } := by
  have hmem := List.mem_of_getElem? hi
  have hunsent := h.unsent _ hmem (.inr ⟨link,rfl⟩)
  obtain ⟨hm,ha⟩ := h.first _ hmem rfl
  have hkeep : ∀ x ∈ s.threads.set i ⟨request,stage⟩, x.stage.active → x = ⟨request,stage⟩ ∨
      x ∈ s.threads ∧ x.request.attemptId ≠ request.attemptId := by
    intro x hx hactive
    obtain ⟨j,hj⟩ := List.mem_iff_getElem?.mp hx
    rcases get_set hj with ⟨_,rfl⟩ | ⟨hji,hj⟩
    · exact .inl rfl
    · exact .inr ⟨List.mem_of_getElem? hj,fun hxr => hji (h.sole j i x _ hj hi hxr hactive rfl)⟩
  refine ⟨fun j k x y hj hk hxy hx hy => ?_,fun x hx hx' f hf => ?_,fun x hx result hx' f hf hfx => ?_,
    fun x hx hactive => ?_,fun x hx result replayed hx' f hf hfx => ?_,fun e he f hf hfe => ?_,fun f hf => ?_,fun a => ?_⟩
  · rcases get_set hj with ⟨rfl,rfl⟩ | ⟨hji,hj'⟩ <;> rcases get_set hk with ⟨rfl,rfl⟩ | ⟨hki,hk'⟩
    · rfl
    · exact absurd (h.sole k _ y _ hk' hi hxy.symm hy rfl) hki
    · exact absurd (h.sole j _ x _ hj' hi hxy hx rfl) hji
    · exact h.sole j k x y hj' hk' hxy hx hy
  · have hactive : x.stage.active := by rcases hx' with hx' | ⟨link,hx'⟩ <;> simp [hx',Stage.active]
    rcases hkeep x hx hactive with rfl | ⟨hx,hxr⟩
    · rcases hstage with ⟨result,_,rfl⟩ | ⟨_,rfl⟩ <;> simp at hx'
    · rcases List.mem_cons.mp hf with rfl | hf
      · exact Ne.symm hxr
      · exact h.unsent x hx hx' f hf
  · have hactive : x.stage.active := by simp [hx',Stage.active]
    rcases hkeep x hx hactive with rfl | ⟨hx,hxr⟩
    · rcases hstage with ⟨r,hc,rfl⟩ | ⟨_,rfl⟩
      · cases hx'
        rcases List.mem_cons.mp hf with rfl | hf
        · exact hc
        · exact absurd hfx (hunsent f hf)
      · cases hx'
    · rcases List.mem_cons.mp hf with rfl | hf
      · exact absurd hfx.symm hxr
      · exact h.decided x hx result hx' f hf hfx
  · have hnot : ∀ y ∈ s.threads.set i ⟨request,stage⟩, y.stage.isAnswered → y ∈ s.threads := by
      intro y hy hya
      rcases mem_set hy with rfl | hy
      · rcases hstage with ⟨r,_,rfl⟩ | ⟨_,rfl⟩ <;> cases hya
      · exact hy
    rcases hkeep x hx hactive with rfl | ⟨hx,_⟩
    · refine ⟨hm,fun y hy hyx => eq_false_of_ne_true fun hya => ?_⟩
      rw [ha y (hnot y hy hya) hyx] at hya; cases hya
    · obtain ⟨hm,ha⟩ := h.first x hx hactive
      refine ⟨hm,fun y hy hyx => eq_false_of_ne_true fun hya => ?_⟩
      rw [ha y (hnot y hy hya) hyx] at hya; cases hya
  · have hx : x ∈ s.threads := by
      rcases mem_set hx with rfl | hx
      · rcases hstage with ⟨r,_,rfl⟩ | ⟨_,rfl⟩ <;> cases hx'
      · exact hx
    rcases List.mem_cons.mp hf with rfl | hf
    · have hanswered := ha x hx hfx.symm
      rw [hx'] at hanswered; cases hanswered
    · exact h.answered x hx result replayed hx' f hf hfx
  · rcases List.mem_cons.mp hf with rfl | hf
    · exact absurd hfe.symm (hm e he)
    · exact h.memory e he f hf hfe
  · rcases List.mem_cons.mp hf with rfl | hf
    · refine ⟨_,mem_set_self hi,rfl,?_⟩
      rcases hstage with ⟨r,_,rfl⟩ | ⟨_,rfl⟩
      · exact .inr (.inr ⟨r,rfl⟩)
      · exact .inr (.inl rfl)
    · obtain ⟨x,hx,hxf,hx'⟩ := h.sent f hf
      refine ⟨x,mem_set_ne hi hx ?_,hxf,hx'⟩
      rintro rfl
      rcases hx' with hx' | hx' | ⟨_,hx'⟩ <;> cases hx'
  · rw [List.countP_cons]
    by_cases har : request.attemptId = a
    · have hzero : s.frames.countP (·.request.attemptId = a) = 0 := by
        refine List.countP_eq_zero.mpr fun f hf => ?_
        simpa [← har] using hunsent f hf
      rw [hzero]
      split <;> omega
    · simpa [har] using h.once a

/-- What was decided is written to the memory and answered. -/
theorem remember (h : Orderly s) (hi : s.threads[i]? = some ⟨request,.decided result⟩) :
    Orderly { s.set i request (.answered result false) with memory := Helper.remember s.memory request.attemptId result } := by
  have hmem := List.mem_of_getElem? hi
  have hdecided := h.decided _ hmem result rfl
  have hkeep : ∀ x ∈ s.threads.set i ⟨request,.answered result false⟩, x.stage.active →
      x ∈ s.threads ∧ x.request.attemptId ≠ request.attemptId := by
    intro x hx hactive
    obtain ⟨j,hj⟩ := List.mem_iff_getElem?.mp hx
    rcases get_set hj with ⟨_,rfl⟩ | ⟨hji,hj⟩
    · cases hactive
    · exact ⟨List.mem_of_getElem? hj,fun hxr => hji (h.sole j i x _ hj hi hxr hactive rfl)⟩
  refine ⟨fun j k x y hj hk hxy hx hy => ?_,fun x hx hx' => ?_,fun x hx r hx' => ?_,fun x hx hactive => ?_,
    fun x hx r replayed hx' f hf hfx => ?_,fun e he f hf hfe => ?_,fun f hf => ?_,h.once⟩
  · rcases get_set hj with ⟨_,rfl⟩ | ⟨_,hj⟩
    · cases hx
    · rcases get_set hk with ⟨_,rfl⟩ | ⟨_,hk⟩
      · cases hy
      · exact h.sole j k x y hj hk hxy hx hy
  · have hactive : x.stage.active := by rcases hx' with hx' | ⟨link,hx'⟩ <;> simp [hx',Stage.active]
    exact h.unsent x (hkeep x hx hactive).1 hx'
  · have hactive : x.stage.active := by simp [hx',Stage.active]
    exact h.decided x (hkeep x hx hactive).1 r hx'
  · obtain ⟨hx,hxr⟩ := hkeep x hx hactive
    obtain ⟨hm,ha⟩ := h.first x hx hactive
    refine ⟨fun e he => ?_,fun y hy hyx => ?_⟩
    · dsimp only at he
      rcases mem_remember he with rfl | he
      · exact Ne.symm hxr
      · exact hm e he
    · rcases mem_set hy with rfl | hy
      · exact absurd hyx (Ne.symm hxr)
      · exact ha y hy hyx
  · rcases mem_set hx with rfl | hx
    · cases hx'
      exact hdecided f hf hfx
    · exact h.answered x hx r replayed hx' f hf hfx
  · dsimp only at he
    rcases mem_remember he with rfl | he
    · exact hdecided f hf hfe
    · exact h.memory e he f hf hfe
  · obtain ⟨x,hx,hxf,hx'⟩ := h.sent f hf
    by_cases hxu : x = ⟨request,.decided result⟩
    · subst hxu
      exact ⟨_,mem_set_self hi,hxf,.inl rfl⟩
    · exact ⟨x,mem_set_ne hi hx hxu,hxf,hx'⟩

theorem step (h : Orderly s) {a : Act} (ha : Unhidden s a) (hs : Helper.step a s = some s') : Orderly s' := by
  cases a with
  | submit request =>
    simp only [Helper.step,Option.some.injEq] at hs
    subst hs
    refine h.submit ?_
    by_cases hv : request.valid <;> simp [hv]
  | lookup i =>
    cases hi : s.threads[i]? with
    | none => simp [Helper.step,hi] at hs
    | some t =>
      obtain ⟨request,stage⟩ := t
      cases stage with
      | received => exact h.lookup hi (ha _ hi) s' hs
      | _ => simp [Helper.step,hi] at hs
  | check i reading =>
    cases hi : s.threads[i]? with
    | none => simp [Helper.step,hi] at hs
    | some t =>
      obtain ⟨request,stage⟩ := t
      cases stage with
      | missed =>
        simp only [Helper.step,hi] at hs
        cases hc : check request reading with
        | passed link =>
          simp only [hc,Option.some.injEq] at hs
          subst hs
          exact h.progress hi (.inl rfl) (.inl ⟨link,rfl⟩)
        | refused reason link =>
          simp only [hc,Option.some.injEq] at hs
          subst hs
          exact h.progress hi (.inl rfl) (.inr (.inl ⟨_,rfl⟩))
        | raised =>
          simp only [hc,Option.some.injEq] at hs
          subst hs
          exact h.progress hi (.inl rfl) (.inr (.inr rfl))
      | _ => simp [Helper.step,hi] at hs
  | dispatch i sequence verdict delivery =>
    cases hi : s.threads[i]? with
    | none => simp [Helper.step,hi] at hs
    | some t =>
      obtain ⟨request,stage⟩ := t
      cases stage with
      | checked link =>
        simp only [Helper.step,hi] at hs
        split at hs
        · next hsent =>
          cases hs
          refine h.dispatch hi ?_
          cases hc : conclude request link sequence delivery with
          | some result => exact .inl ⟨result,rfl,rfl⟩
          | none => exact .inr ⟨rfl,by rw [hsent]⟩
        · next hsent =>
          cases hs
          cases delivery with
          | sendFailed reason => exact h.progress hi (.inr ⟨link,rfl⟩) (.inr (.inl ⟨_,rfl⟩))
          | _ => exact absurd rfl hsent
      | _ => simp [Helper.step,hi] at hs
  | remember i =>
    cases hi : s.threads[i]? with
    | none => simp [Helper.step,hi] at hs
    | some t =>
      obtain ⟨request,stage⟩ := t
      cases stage with
      | decided result =>
        simp only [Helper.step,hi,Option.some.injEq] at hs
        subst hs
        exact h.remember hi
      | _ => simp [Helper.step,hi] at hs

end Orderly

theorem orderly {s : machine.State} (h : Machine.Reach machine Unhidden s) : Orderly s :=
  h.invariant (I := Orderly)
    (fun s hs => by
      subst hs
      exact ⟨by simp [State.empty],by simp [State.empty],by simp [State.empty],by simp [State.empty],
        by simp [State.empty],by simp [State.empty],by simp [State.empty],by simp [State.empty]⟩)
    fun _ s _ (hI : Orderly s) ha hs => hI.step ha hs

/-- In every run that keeps to that, over any requests on any number of threads, at most one frame
is ever sent for an attempt, and every answer about the attempt is what that frame came to. -/
theorem at_most_once {s : machine.State} (h : Machine.Reach machine Unhidden s) : AtMostOnce s :=
  ⟨(orderly h).once,(orderly h).answered⟩

def mtuRequest : SetMtu := ⟨"a",3,1500,9000,some "eth0"⟩
def mtuLink : LinkReading := .facts ⟨some "eth0",some 1500⟩

/-- An attempt is handled to its end, and asked for again. -/
theorem repeat_answered : ∃ s : machine.State, (s.threads.filter (·.stage.isAnswered)).length = 2 ∧ AtMostOnce s := by
  obtain ⟨s,hs,hp⟩ := Machine.exists_of_play (M := machine) (R := Unhidden) (s := State.empty) rfl
    [.submit mtuRequest,.lookup 0,.check 0 mtuLink,.dispatch 0 1 .accepted (.unanswered "acknowledgement_timeout"),
      .remember 0,.submit mtuRequest,.lookup 1] (fun s => (s.threads.filter (·.stage.isAnswered)).length = 2) (by decide)
  exact ⟨s,by simpa using hp,at_most_once hs⟩

/-- Two requests of one attempt both miss, and both send their frame. -/
theorem simultaneous_duplicates : ¬∀ s : machine.State, Machine.Reach machine Machine.free s → AtMostOnce s := by
  intro h
  obtain ⟨s,hs,hp⟩ := Machine.exists_of_play (M := machine) (R := Machine.free) (s := State.empty) rfl
    [.submit mtuRequest,.submit mtuRequest,.lookup 0,.lookup 1,.check 0 mtuLink,.check 1 mtuLink,
      .dispatch 0 1 .accepted (.unanswered "acknowledgement_timeout"),
      .dispatch 1 2 .accepted (.unanswered "acknowledgement_timeout")]
    (fun s => s.frames.countP (·.request.attemptId = "a") = 2) (by decide)
  have honce := (h s hs).once "a"
  simp only [decide_eq_true_eq] at hp
  omega

end Helper
end LocalPlane
