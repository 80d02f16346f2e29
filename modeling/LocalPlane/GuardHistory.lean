import LocalPlane.GuardHolder

/-!
# What a guard is told to have done

A guard's history is what its holder dispatched, settled and answered, in order. In every
run in which no guard whose reversal raised is released, and no forgotten guard is armed
again, each guard dispatches at most once, a released guard never dispatches, and what a
guard settled as is what every later answer says, for as long as it is remembered.
-/

set_option linter.dupNamespace false

namespace LocalPlane
namespace GuardHolder

/-- The event sends the guard's reversal. -/
def Event.dispatches (guardId : GuardId) : Event → Bool
  | .dispatched g _ => g = guardId
  | _ => false

/-- After a guard settled it does not settle again, and answers say what it settled as. -/
def Event.Follows (later earlier : Event) : Prop :=
  ∀ g p, earlier = .settled g p → ∀ p', later ≠ .settled g p' ∧ (later = .reported g p' → p' = p ∨ p' = .lost)

structure Lawful (s : State) : Prop where
  once : ∀ g, s.trace.countP (·.dispatches g) ≤ 1
  disarmed : ∀ g r, .reported g .disarmed ∈ s.trace → .dispatched g r ∉ s.trace
  fired : s.trace.Pairwise fun later earlier => ∀ g, earlier = .reported g .fired → later ≠ .reported g .disarmed
  settled : s.trace.Pairwise Event.Follows
  targets : (s.registry.armed.map (·.ifindex)).Nodup

/-- A guard is released only if its reversal did not raise, and armed only if it is known or
was never armed. -/
def Allowed (s : State) : Act → Prop
  | .disarm guardId _ => ∀ guard ∈ s.registry.armed, guard.guardId = guardId → guard.phase ≠ .fired
  | .arm request _ => (find s.registry.armed request.guardId).isSome ∨ (find s.registry.settled request.guardId).isSome ∨
      .armed request.guardId ∉ s.trace
  | _ => True

instance (s : State) : (a : Act) → Decidable (Allowed s a)
  | .disarm guardId _ => inferInstanceAs (Decidable (∀ guard ∈ s.registry.armed, guard.guardId = guardId → guard.phase ≠ .fired))
  | .arm request _ => inferInstanceAs (Decidable ((find s.registry.armed request.guardId).isSome ∨
      (find s.registry.settled request.guardId).isSome ∨ .armed request.guardId ∉ s.trace))
  | .status _ => .isTrue trivial
  | .fire _ _ _ => .isTrue trivial
  | .shutdown _ => .isTrue trivial

instance : ∀ (s : machine.State) (a : machine.Act), Decidable (Allowed s a) := fun (s : State) (a : Act) =>
  inferInstanceAs (Decidable (Allowed s a))

variable {guards : List Guard} {guard x : Guard} {guardId g : GuardId} {t : List Event} {p : Phase}

theorem find_some (h : find guards guardId = some guard) : guard ∈ guards ∧ guard.guardId = guardId :=
  ⟨List.mem_of_find?_eq_some h,by simpa using List.find?_some h⟩

theorem find_none : find guards guardId = none ↔ ∀ g ∈ guards, g.guardId ≠ guardId := by
  simp [find]

theorem put_new (h : find guards guard.guardId = none) : put guards guard = guards ++ [guard] := by
  simp [put,h]

theorem put_held (h : (find guards guard.guardId).isSome) :
    put guards guard = guards.map fun g => if g.guardId = guard.guardId then guard else g := by
  simp [put,h]

theorem mem_put (h : x ∈ put guards guard) : x = guard ∨ x ∈ guards ∧ x.guardId ≠ guard.guardId := by
  cases hf : find guards guard.guardId with
  | none =>
    rw [put_new hf] at h
    rcases List.mem_append.mp h with h | h
    · exact .inr ⟨h,find_none.mp hf x h⟩
    · exact .inl (by simpa using h)
  | some held =>
    rw [put_held (by simp [hf])] at h
    obtain ⟨y,hy,rfl⟩ := List.mem_map.mp h
    by_cases hid : y.guardId = guard.guardId
    · exact .inl (if_pos hid)
    · exact .inr (by simpa [hid] using hy)

/-- Replacing a guard by one that agrees with it on a column leaves the column as it was. -/
theorem map_put {α : Type} (f : Guard → α) (h : (find guards guard.guardId).isSome)
    (hf : ∀ x ∈ guards, x.guardId = guard.guardId → f guard = f x) : (put guards guard).map f = guards.map f := by
  rw [put_held h,List.map_map]
  refine List.map_congr_left fun x hx => ?_
  by_cases hid : x.guardId = guard.guardId
  · simp [hid,hf x hx hid]
  · simp [hid]

/-- One guard of an id is held. -/
theorem eq_of_guardId (hn : (guards.map (·.guardId)).Nodup) (hg : guard ∈ guards) (hx : x ∈ guards)
    (h : x.guardId = guard.guardId) : x = guard := List.inj_on_of_nodup_map hn hx hg h

/-- What a history may say, and what each of its events stands for. -/
structure Told (t : List Event) : Prop where
  once : ∀ g, t.countP (·.dispatches g) ≤ 1
  known : ∀ g, ((∃ r, .dispatched g r ∈ t) ∨ ∃ p, .settled g p ∈ t) → .armed g ∈ t
  ended : ∀ g p, .settled g p ∈ t →
    p = .disarmed ∧ (∀ r, .dispatched g r ∉ t) ∨ p = .fired ∧ ∃ r, .dispatched g r ∈ t
  released : ∀ g, .reported g .disarmed ∈ t → .settled g .disarmed ∈ t
  fired : ∀ g, .reported g .fired ∈ t → ∃ r, .dispatched g r ∈ t
  settled : t.Pairwise Event.Follows

namespace Told

theorem single (h : Told t) {p p' : Phase} (hp : .settled g p ∈ t) (hp' : .settled g p' ∈ t) : p = p' := by
  rcases h.ended g p hp with ⟨rfl,hn⟩ | ⟨rfl,r,hr⟩ <;> rcases h.ended g p' hp' with ⟨rfl,hn'⟩ | ⟨rfl,r',hr'⟩
  · rfl
  · exact absurd hr' (hn r')
  · exact absurd hr (hn' r)
  · rfl

theorem disarmed (h : Told t) {r : Registry.Reversal} (hp : .reported g .disarmed ∈ t) : .dispatched g r ∉ t := by
  rcases h.ended g .disarmed (h.released g hp) with ⟨_,hn⟩ | ⟨hf,_⟩
  · exact hn r
  · cases hf

theorem armed (h : Told t) : Told (.armed g :: t) where
  once g' := by simpa [List.countP_cons,Event.dispatches] using h.once g'
  known g' hg' := .tail _ (h.known g' (by simpa using hg'))
  ended g' p' hp' := by simpa using h.ended g' p' (by simpa using hp')
  released g' hg' := by simpa using h.released g' (by simpa using hg')
  fired g' hg' := by simpa using h.fired g' (by simpa using hg')
  settled := List.pairwise_cons.mpr ⟨fun _ _ _ _ _ _ => by simp,h.settled⟩

theorem reported (h : Told t) (hd : p = .disarmed → .settled g .disarmed ∈ t)
    (hf : p = .fired → ∃ r, .dispatched g r ∈ t) (hs : ∀ q, .settled g q ∈ t → p = q ∨ p = .lost) :
    Told (.reported g p :: t) where
  once g' := by simpa [List.countP_cons,Event.dispatches] using h.once g'
  known g' hg' := .tail _ (h.known g' (by simpa using hg'))
  ended g' p' hp' := by simpa using h.ended g' p' (by simpa using hp')
  released g' hg' := by
    refine .tail _ ?_
    rcases List.mem_cons.mp hg' with he | hg'
    · cases he; exact hd rfl
    · exact h.released g' hg'
  fired g' hg' := by
    obtain ⟨r,hr⟩ : ∃ r, .dispatched g' r ∈ t := by
      rcases List.mem_cons.mp hg' with he | hg'
      · cases he; exact hf rfl
      · exact h.fired g' hg'
    exact ⟨r,.tail _ hr⟩
  settled := by
    refine List.pairwise_cons.mpr ⟨fun earlier he g' q hq p' => ⟨by simp,fun hp => ?_⟩,h.settled⟩
    subst hq
    cases hp
    exact hs q he

theorem dispatched {r : Registry.Reversal} (h : Told t) (hn : ∀ r, .dispatched g r ∉ t) (hs : ∀ p, .settled g p ∉ t)
    (ha : .armed g ∈ t) : Told (.dispatched g r :: t) where
  once g' := by
    rw [List.countP_cons]
    by_cases hg : g = g'
    · subst hg
      have hzero : t.countP (·.dispatches g) = 0 := by
        refine List.countP_eq_zero.mpr fun e he hd => ?_
        cases e <;> simp [Event.dispatches] at hd
        exact hn _ (hd ▸ he)
      rw [hzero]
      simp [Event.dispatches]
    · simpa [Event.dispatches,hg] using h.once g'
  known g' hg' := by
    refine .tail _ ?_
    rcases hg' with ⟨r',hr'⟩ | ⟨p,hp⟩
    · rcases List.mem_cons.mp hr' with he | hr'
      · cases he; exact ha
      · exact h.known g' (.inl ⟨r',hr'⟩)
    · exact h.known g' (.inr ⟨p,by simpa using hp⟩)
  ended g' p' hp' := by
    have hp : .settled g' p' ∈ t := by simpa using hp'
    have hne : g' ≠ g := fun hg => hs p' (hg ▸ hp)
    simpa [hne] using h.ended g' p' hp
  released g' hg' := by simpa using h.released g' (by simpa using hg')
  fired g' hg' := by
    obtain ⟨r',hr'⟩ := h.fired g' (by simpa using hg')
    exact ⟨r',.tail _ hr'⟩
  settled := List.pairwise_cons.mpr ⟨fun _ _ _ _ _ _ => by simp,h.settled⟩

theorem settle (h : Told t) (hs : ∀ p, .settled g p ∉ t) (ha : .armed g ∈ t)
    (hp : p = .disarmed ∧ (∀ r, .dispatched g r ∉ t) ∨ p = .fired ∧ ∃ r, .dispatched g r ∈ t) :
    Told (.settled g p :: t) where
  once g' := by simpa [List.countP_cons,Event.dispatches] using h.once g'
  known g' hg' := by
    refine .tail _ ?_
    rcases hg' with ⟨r',hr'⟩ | ⟨p',hp'⟩
    · exact h.known g' (.inl ⟨r',by simpa using hr'⟩)
    · rcases List.mem_cons.mp hp' with he | hp'
      · cases he; exact ha
      · exact h.known g' (.inr ⟨p',hp'⟩)
  ended g' p' hp' := by
    rcases List.mem_cons.mp hp' with he | hp'
    · cases he; simpa using hp
    · simpa using h.ended g' p' hp'
  released g' hg' := .tail _ (h.released g' (by simpa using hg'))
  fired g' hg' := by simpa using h.fired g' (by simpa using hg')
  settled := by
    refine List.pairwise_cons.mpr ⟨fun earlier he g' q hq p' => ⟨fun hl => ?_,by simp⟩,h.settled⟩
    subst hq
    cases hl
    exact hs q he

end Told

/-- A guard that is held has not settled, and has dispatched only if its reversal raised. -/
structure Held (s : State) (guard : Guard) : Prop where
  known : .armed guard.guardId ∈ s.trace
  unsettled : ∀ p, .settled guard.guardId p ∉ s.trace
  phase : guard.phase = .armed ∧ (∀ r, .dispatched guard.guardId r ∉ s.trace) ∨
    guard.phase = .fired ∧ (∃ r, .dispatched guard.guardId r ∈ s.trace) ∧ guard.guardId ∉ s.deadlines

structure Good (s : State) : Prop where
  told : Told s.trace
  ids : (s.registry.armed.map (·.guardId)).Nodup
  targets : (s.registry.armed.map (·.ifindex)).Nodup
  held : ∀ guard ∈ s.registry.armed, Held s guard
  settled : ∀ guard ∈ s.registry.settled, .settled guard.guardId guard.phase ∈ s.trace
  deadlines : s.deadlines.Nodup
  pending : ∀ g ∈ s.deadlines, .armed g ∈ s.trace

namespace Good

variable {s : State}

/-- What is held is not among what has settled. -/
theorem unsettled (h : Good s) (hg : guard ∈ s.registry.armed) : find s.registry.settled guard.guardId = none :=
  find_none.mpr fun x hx hid => (h.held guard hg).unsettled x.phase (hid ▸ h.settled x hx)

/-- Nothing has happened to a guard that was never armed. -/
theorem fresh (h : Good s) (hn : .armed g ∉ s.trace) : (∀ r, .dispatched g r ∉ s.trace) ∧ ∀ p, .settled g p ∉ s.trace :=
  ⟨fun r hr => hn (h.told.known g (.inl ⟨r,hr⟩)),fun p hp => hn (h.told.known g (.inr ⟨p,hp⟩))⟩

/-- Any answer but a fresh settlement leaves everything where it was. -/
theorem answer (h : Good s) {deadlines : List GuardId} (hd : deadlines.Sublist s.deadlines)
    (hr : Told (.reported g p :: s.trace)) : Good ⟨s.registry,deadlines,.reported g p :: s.trace⟩ where
  told := hr
  ids := h.ids
  targets := h.targets
  held guard hg := by
    obtain ⟨hk,hu,hp⟩ := h.held guard hg
    refine ⟨.tail _ hk,fun p hp => hu p (by simpa using hp),?_⟩
    rcases hp with ⟨hp,hn⟩ | ⟨hp,⟨r,hr⟩,hn⟩
    · exact .inl ⟨hp,fun r hr => hn r (by simpa using hr)⟩
    · exact .inr ⟨hp,⟨r,.tail _ hr⟩,fun hm => hn (hd.subset hm)⟩
  settled guard hg := .tail _ (h.settled guard hg)
  deadlines := h.deadlines.sublist hd
  pending g hg := .tail _ (h.pending g (hd.subset hg))

/-- What is remembered about a settled guard is what its history says it settled as. -/
theorem reported_settled (h : Good s) (hg : guard ∈ s.registry.settled) :
    Told (.reported guard.guardId guard.phase :: s.trace) := by
  have hs := h.settled guard hg
  refine h.told.reported (fun hp => hp ▸ hs) (fun hp => ?_) fun q hq => .inl (h.told.single hs hq)
  rcases h.told.ended _ _ hs with ⟨hd,_⟩ | ⟨_,hr⟩
  · rw [hp] at hd; cases hd
  · exact hr

theorem reported_lost (h : Good s) : Told (.reported g .lost :: s.trace) :=
  h.told.reported (by simp) (by simp) fun _ _ => .inr rfl

theorem reported_held (h : Good s) (hg : guard ∈ s.registry.armed) :
    Told (.reported guard.guardId guard.phase :: s.trace) := by
  obtain ⟨_,hu,hp⟩ := h.held guard hg
  refine h.told.reported (fun hd => ?_) (fun hf => ?_) fun q hq => absurd hq (hu q)
  · rcases hp with ⟨hp,_⟩ | ⟨hp,_⟩ <;> rw [hp] at hd <;> cases hd
  · rcases hp with ⟨hp,_⟩ | ⟨_,hr,_⟩
    · rw [hp] at hf; cases hf
    · exact hr

theorem arm (h : Good s) {request : ArmRequest} {now : Int} {report : Report} {registry : Registry}
    (ha : Allowed s (.arm request now)) (hr : s.registry.arm request now = .ok (report,registry)) :
    Good ⟨registry,s.deadlines ++ [request.guardId],
      .reported request.guardId report.phase :: .armed request.guardId :: s.trace⟩ := by
  unfold Registry.arm at hr
  repeat' split at hr
  all_goals cases hr
  next hnew _ hfree =>
  simp only [not_or,Option.not_isSome_iff_eq_none] at hnew
  obtain ⟨hn,hn'⟩ := hnew
  have hfresh : .armed request.guardId ∉ s.trace := by
    rcases ha with ha | ha | ha
    · simp [hn] at ha
    · simp [hn'] at ha
    · exact ha
  obtain ⟨hnd,hns⟩ := h.fresh hfresh
  have hids : ∀ x ∈ s.registry.armed, x.guardId ≠ request.guardId := find_none.mp hn
  have hput : put s.registry.armed (Registry.hold request now) = s.registry.armed ++ [Registry.hold request now] :=
    put_new hn
  have htargets : ∀ x ∈ s.registry.armed, x.ifindex ≠ request.ifindex := by simpa using hfree
  refine ⟨?_,?_,?_,fun guard hg => ?_,fun guard hg => ?_,?_,fun g hg => ?_⟩
  · refine (h.told.armed).reported (fun hd => ?_) (fun hf => ?_) fun q hq => absurd (by simpa using hq) (hns q)
    · cases hd
    · cases hf
  · rw [hput,List.map_append]
    exact List.nodup_append.mpr ⟨h.ids,by simp,by simpa [Registry.hold] using hids⟩
  · rw [hput,List.map_append]
    exact List.nodup_append.mpr ⟨h.targets,by simp,by simpa [Registry.hold] using htargets⟩
  · rw [hput] at hg
    rcases List.mem_append.mp hg with hg | hg
    · obtain ⟨hk,hu,hp⟩ := h.held guard hg
      refine ⟨.tail _ (.tail _ hk),fun p hp => hu p (by simpa using hp),?_⟩
      rcases hp with ⟨hp,hn⟩ | ⟨hp,⟨r,hr⟩,hn⟩
      · exact .inl ⟨hp,fun r hr => hn r (by simpa using hr)⟩
      · exact .inr ⟨hp,⟨r,.tail _ (.tail _ hr)⟩,by simpa [hn] using hids guard hg⟩
    · cases List.mem_singleton.mp hg
      exact ⟨.tail _ (.head _),fun p hp => hns p (by simpa [Registry.hold] using hp),
        .inl ⟨rfl,fun r hr => hnd r (by simpa [Registry.hold] using hr)⟩⟩
  · exact .tail _ (.tail _ (h.settled guard hg))
  · refine List.nodup_append.mpr ⟨h.deadlines,by simp,fun a ha b hb => ?_⟩
    cases List.mem_singleton.mp hb
    exact fun he => hfresh (he ▸ h.pending a ha)
  · rcases List.mem_append.mp hg with hg | hg
    · exact .tail _ (.tail _ (h.pending g hg))
    · cases List.mem_singleton.mp hg
      exact .tail _ (.head _)

/-- A held guard settles, and its history says as what. -/
theorem settle (h : Good s) (settled : Guard) (hid : settled.guardId = guard.guardId)
    {deadlines : List GuardId} (hd : deadlines.Sublist s.deadlines) (es : List Event)
    (ht : Told (.settled guard.guardId settled.phase :: es ++ s.trace))
    (hes : ∀ e ∈ es, ∃ r, e = .dispatched guard.guardId r) :
    Good ⟨s.registry.settle settled,deadlines,.settled guard.guardId settled.phase :: es ++ s.trace⟩ := by
  have hold : ∀ {e}, e ∈ s.trace → e ∈ .settled guard.guardId settled.phase :: es ++ s.trace := fun he => by simp [he]
  refine ⟨ht,?_,?_,fun x hx => ?_,fun x hx => ?_,h.deadlines.sublist hd,fun g hg => hold (h.pending g (hd.subset hg))⟩
  · exact h.ids.sublist (List.filter_sublist.map _)
  · exact h.targets.sublist (List.filter_sublist.map _)
  · obtain ⟨hx,hne⟩ := List.mem_filter.mp hx
    have hne' : x.guardId ≠ guard.guardId := by simpa [hid] using hne
    have hother : ∀ {e}, e ∈ .settled guard.guardId settled.phase :: es ++ s.trace →
        (∀ p, e ≠ .settled guard.guardId p) → (∀ r, e ≠ .dispatched guard.guardId r) → e ∈ s.trace := by
      intro e he hs hr
      rcases List.mem_append.mp he with he | he
      · rcases List.mem_cons.mp he with rfl | he
        · exact absurd rfl (hs _)
        · obtain ⟨r,hd⟩ := hes e he
          exact absurd hd (hr r)
      · exact he
    obtain ⟨hk,hu,hp⟩ := h.held x hx
    refine ⟨hold hk,fun p hp => hu p (hother hp (by simp [hne']) (by simp)),?_⟩
    rcases hp with ⟨hp,hn⟩ | ⟨hp,⟨r,hr⟩,hn⟩
    · exact .inl ⟨hp,fun r hr => hn r (hother hr (by simp) (by simp [hne']))⟩
    · exact .inr ⟨hp,⟨r,hold hr⟩,fun hm => hn (hd.subset hm)⟩
  · rcases mem_put (List.mem_of_mem_drop hx) with rfl | ⟨hx,_⟩
    · simp [hid]
    · exact hold (h.settled x hx)

theorem disarm (h : Good s) {late : Bool} (ha : Allowed s (.disarm guardId late)) :
    ∀ s', step (.disarm guardId late) s = some s' → Good s' := by
  intro s' hs
  cases hf : find s.registry.armed guardId with
  | some guard =>
    obtain ⟨hg,rfl⟩ := find_some hf
    have hphase := ha guard hg rfl
    obtain ⟨hk,hu,hp⟩ := h.held guard hg
    rcases hp with ⟨_,hn⟩ | ⟨hp,_⟩
    · have hsub : (cancelled (some guard) late s.deadlines).Sublist s.deadlines := by
        unfold cancelled
        dsimp only
        split
        · exact List.erase_sublist
        · exact .refl _
      have ht : Told (.settled guard.guardId .disarmed :: [] ++ s.trace) := h.told.settle hu hk (.inl ⟨rfl,hn⟩)
      have hgood := h.settle { guard with timer := false, phase := .disarmed } rfl hsub [] ht (by simp)
      simp only [step,Registry.disarm,hf,Option.isSome_some,if_true,Option.some.injEq] at hs
      subst hs
      refine hgood.answer (.refl _) (hgood.told.reported (fun _ => .head _) (by simp [Guard.report]) fun q hq => ?_)
      exact .inl (hgood.told.single (.head _) hq)
    · exact absurd hp hphase
  | none =>
    cases hf' : find s.registry.settled guardId with
    | some guard =>
      obtain ⟨hg,rfl⟩ := find_some hf'
      simp only [step,Registry.disarm,hf,hf',cancelled,Option.isSome_none,if_neg,Bool.false_eq_true,not_false_eq_true,
        List.nil_append,Option.some.injEq] at hs
      subst hs
      exact h.answer (.refl _) (h.reported_settled hg)
    | none =>
      simp only [step,Registry.disarm,hf,hf',cancelled,Option.isSome_none,if_neg,Bool.false_eq_true,not_false_eq_true,
        List.nil_append,Option.some.injEq] at hs
      subst hs
      exact h.answer (.refl _) h.reported_lost

theorem status (h : Good s) : Good { s with trace := .reported guardId (s.registry.status guardId).phase :: s.trace } := by
  refine h.answer (.refl _) ?_
  unfold Registry.status
  cases hf : find s.registry.armed guardId with
  | some guard =>
    obtain ⟨hg,rfl⟩ := find_some hf
    exact h.reported_held hg
  | none =>
    cases hf' : find s.registry.settled guardId with
    | some guard =>
      obtain ⟨hg,rfl⟩ := find_some hf'
      exact h.reported_settled hg
    | none => exact h.reported_lost

theorem fire (h : Good s) {now : Int} {answer : Option MutationOutcome} (hm : guardId ∈ s.deadlines) :
    ∀ s', step (.fire guardId now answer) s = some s' → Good s' := by
  intro s' hs
  have hsub : (s.deadlines.erase guardId).Sublist s.deadlines := List.erase_sublist
  simp only [step,hm,if_true,Registry.fire] at hs
  cases hf : find s.registry.armed guardId with
  | none =>
    simp only [hf,Option.some.injEq] at hs
    subst hs
    refine ⟨h.told,h.ids,h.targets,fun x hx => ?_,h.settled,h.deadlines.sublist hsub,fun g hg => h.pending g (hsub.subset hg)⟩
    obtain ⟨hk,hu,hp⟩ := h.held x hx
    exact ⟨hk,hu,hp.imp_right fun hp => ⟨hp.1,hp.2.1,fun hm => hp.2.2 (hsub.subset hm)⟩⟩
  | some guard =>
    obtain ⟨hg,rfl⟩ := find_some hf
    obtain ⟨hk,hu,hp⟩ := h.held guard hg
    rcases hp with ⟨_,hn⟩ | ⟨_,_,hp⟩
    · have ht : Told (.dispatched guard.guardId (Registry.reversal guard) :: s.trace) := h.told.dispatched hn hu hk
      cases answer with
      | some outcome =>
        simp only [hf,Option.isSome_some,if_true,Option.some.injEq] at hs
        subst hs
        refine h.settle { guard with timer := false, phase := .fired, firedAt := some now, mutation := some outcome }
          rfl hsub [.dispatched guard.guardId (Registry.reversal guard)] ?_ (by simp)
        exact ht.settle (fun p hp => hu p (by simpa using hp)) (.tail _ hk) (.inr ⟨rfl,_,.head _⟩)
      | none =>
        simp only [hf,Option.isSome_none,if_neg,Bool.false_eq_true,not_false_eq_true,List.nil_append,
          Option.some.injEq] at hs
        subst hs
        have hheld : (find s.registry.armed
            ({ guard with timer := false, phase := .fired, firedAt := some now } : Guard).guardId).isSome := by simp [hf]
        have hsame : ∀ x ∈ s.registry.armed, x.guardId = guard.guardId → x = guard := fun x hx =>
          eq_of_guardId h.ids hg hx
        refine ⟨ht,?_,?_,fun x hx => ?_,fun x hx => .tail _ (h.settled x hx),h.deadlines.sublist hsub,
          fun g hg => .tail _ (h.pending g (hsub.subset hg))⟩
        · have hmap := map_put (fun g => g.guardId) hheld fun x hx hid => by rw [hsame x hx hid]
          exact hmap ▸ h.ids
        · have hmap := map_put (fun g => g.ifindex) hheld fun x hx hid => by rw [hsame x hx hid]
          exact hmap ▸ h.targets
        · rcases mem_put hx with rfl | ⟨hx,hne⟩
          · exact ⟨.tail _ hk,fun p hp => hu p (by simpa using hp),
              .inr ⟨rfl,⟨_,.head _⟩,h.deadlines.not_mem_erase⟩⟩
          · have hne' : x.guardId ≠ guard.guardId := hne
            obtain ⟨hk,hu,hp⟩ := h.held x hx
            refine ⟨.tail _ hk,fun p hp => hu p (by simpa using hp),?_⟩
            rcases hp with ⟨hp,hn⟩ | ⟨hp,⟨r,hr⟩,hn⟩
            · exact .inl ⟨hp,fun r hr => hn r (by simpa [hne'] using hr)⟩
            · exact .inr ⟨hp,⟨r,.tail _ hr⟩,fun hm => hn (hsub.subset hm)⟩
    · exact absurd hm hp

theorem shutdown (h : Good s) (late : List GuardId) :
    Good ⟨s.registry.shutdown,s.deadlines.filter (· ∈ late),s.trace⟩ := by
  have hids : (s.registry.shutdown.armed.map (·.guardId)) = s.registry.armed.map (·.guardId) := by
    simp [Registry.shutdown]
  have htargets : (s.registry.shutdown.armed.map (·.ifindex)) = s.registry.armed.map (·.ifindex) := by
    simp [Registry.shutdown]
  refine ⟨h.told,hids ▸ h.ids,htargets ▸ h.targets,fun x hx => ?_,h.settled,h.deadlines.filter _,
    fun g hg => h.pending g (List.mem_filter.mp hg).1⟩
  obtain ⟨y,hy,rfl⟩ := List.mem_map.mp hx
  obtain ⟨hk,hu,hp⟩ := h.held y hy
  exact ⟨hk,hu,hp.imp_right fun hp => ⟨hp.1,hp.2.1,fun hm => hp.2.2 (List.mem_filter.mp hm).1⟩⟩

theorem step (h : Good s) {a : Act} (ha : Allowed s a) {s' : State} (hs : GuardHolder.step a s = some s') : Good s' := by
  cases a with
  | arm request now =>
    simp only [GuardHolder.step] at hs
    cases hr : s.registry.arm request now with
    | error refusal => simp only [hr,Option.some.injEq] at hs; exact hs ▸ h
    | ok armed => simp only [hr,Option.some.injEq] at hs; exact hs ▸ h.arm ha hr
  | disarm guardId late => exact h.disarm ha s' hs
  | status guardId => simp only [GuardHolder.step,Option.some.injEq] at hs; exact hs ▸ h.status
  | fire guardId now answer =>
    by_cases hm : guardId ∈ s.deadlines
    · exact h.fire hm s' hs
    · simp [GuardHolder.step,hm] at hs
  | shutdown late => simp only [GuardHolder.step,Option.some.injEq] at hs; exact hs ▸ h.shutdown late

theorem lawful (h : Good s) : Lawful s where
  once := h.told.once
  disarmed _ _ hp := h.told.disarmed hp
  fired := List.pairwise_of_forall_mem_list fun later hl earlier he g hf hd => by
    subst hf hd
    obtain ⟨r,hr⟩ := h.told.fired g he
    exact h.told.disarmed hl hr
  settled := h.told.settled
  targets := h.targets

end Good

/-- In every run that keeps to that, whatever the order of arming, releasing, asking and firing,
and whatever a reversal returns or raises, the histories of all guards are lawful. -/
theorem lawful_of_allowed {s : machine.State} (h : Machine.Reach machine Allowed s) : Lawful s :=
  (h.invariant (I := Good)
    (fun s hs => by
      subst hs
      exact ⟨⟨by simp,by simp,by simp,by simp,by simp,.nil⟩,by simp,by simp,by simp,by simp,by simp,by simp⟩)
    fun _ s _ (hI : Good s) ha hs => hI.step ha hs).lawful

/-- An MTU change from 1500 to 9000, guarded for a minute. -/
def mtuGuard (guardId : GuardId) : ArmRequest := ⟨guardId,7,3,some "eth0",9000,1500,60⟩

theorem lawful_after_release : ∃ s : machine.State, s.trace.length = 5 ∧ Lawful s := by
  obtain ⟨s,hs,hp⟩ := Machine.exists_of_play (M := machine) (R := Allowed) (s := ⟨⟨[],[]⟩,[],[]⟩) rfl
    [.arm (mtuGuard 0) 0,.disarm 0 true,.fire 0 60 (some .written),.status 0] (fun s => s.trace.length = 5) (by decide)
  exact ⟨s,by simpa using hp,lawful_of_allowed hs⟩

/-- The reversal raises after it was dispatched, and the guard is then released. -/
theorem raised_reversal_released : ¬∀ s : machine.State, Machine.Reach machine Machine.free s → Lawful s := by
  intro h
  obtain ⟨s,hs,hp⟩ := Machine.exists_of_play (M := machine) (R := Machine.free) (s := ⟨⟨[],[]⟩,[],[]⟩) rfl
    [.arm (mtuGuard 0) 0,.fire 0 60 none,.disarm 0 false] (fun s =>
      s.trace.any (· = .reported 0 .disarmed) && s.trace.any (· = .dispatched 0 ⟨7,3,9000,1500,some "eth0"⟩)) (by decide)
  simp only [Bool.and_eq_true,List.any_eq_true,decide_eq_true_eq] at hp
  obtain ⟨⟨_,hd,rfl⟩,_,hr,rfl⟩ := hp
  exact (h s hs).disarmed 0 _ hd hr

end GuardHolder
end LocalPlane
