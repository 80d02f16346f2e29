import LocalPlane.RequestLogic

/-!
# What the owner of a Run knows

From the consumed confirmation to the hold or the ending, the request that consumed it
is the only one to move the Change, the checkpoint and the guard. What it knows is a
snapshot of the rows, carried along by its own commits.
-/

set_option linter.dupNamespace false

namespace LocalPlane

def Rows.callsOf (x : Rows) (i : RequestId) : List Call := x.journal.filter (·.request? = some i)

theorem Rows.Rely.callsOf {i : RequestId} {x x' : Rows} (h : Rows.Rely i x x') : x'.callsOf i = x.callsOf i := by
  obtain ⟨new,hn,hi⟩ := h.calls
  have hnone : new.filter (·.request? = some i) = [] := by
    simpa [List.filter_eq_nil_iff] using hi
  rw [Rows.callsOf,hn,List.filter_append,hnone,List.nil_append,Rows.callsOf]

theorem Rows.mem_callsOf {i : RequestId} {x : Rows} {call : Call} (h : call.request? = some i) :
    call ∈ x.callsOf i ↔ call ∈ x.journal := by simp [Rows.callsOf,h]

/-- The rows are what the snapshot says wherever an owner looks. -/
structure Rows.Agrees (i : RequestId) (k x : Rows) : Prop where
  owner : k.Owner i
  held : x.held = k.held
  object : x.object = k.object
  supported : x.supported = k.supported
  preview : x.preview = k.preview
  confirmation : x.confirmation = k.confirmation
  checkpoint : x.checkpoint = k.checkpoint
  guard : x.guard = k.guard
  change : x.change = k.change
  calls : x.callsOf i = k.callsOf i
  ended : x.ended → k.ended

/-- Commits made by the request that consumed the confirmation, up to the hold. -/
def Commit.owned : Commit → Bool
  | .targetCorrelated | .failCorrelation _ | .writeCheckpoint _ | .failArming | .insertGuard | .recordArmed
  | .settleAbandoned _ | .failGuardArming _ | .cross .. | .beginDispatch | .settle _ | .startVerification
  | .recordVerification _ | .startRollback _ | .beginRollback | .recordRollback _
  | .startRollbackVerification _ | .recordRollbackVerification _ | .admitRecovery | .finish ..
  | .settleGuard _ => true
  | _ => false

namespace Rows.Agrees

variable {i : RequestId} {k x x' : Rows} {c : Commit} {ch : ChangeColumns}

theorem refl (h : k.Owner i) : k.Agrees i k := ⟨h,rfl,rfl,rfl,rfl,rfl,rfl,rfl,rfl,rfl,id⟩

theorem spentBy (h : k.Agrees i x) : x.spentBy i := by rw [Rows.spentBy,h.confirmation]; exact h.owner.1

theorem owner' (h : k.Agrees i x) : x.Owner i := ⟨h.spentBy,h.held.trans h.owner.2⟩

theorem rely (h : k.Agrees i x) (hr : Rows.Rely i x x') : k.Agrees i x' := by
  obtain ⟨h1,h2,h3,h4,h5⟩ := hr.owner h.spentBy h.owner'.2
  exact {
    owner := h.owner
    held := h4.trans h.owner.2.symm
    object := hr.object.trans h.object
    supported := hr.supported.trans h.supported
    preview := hr.preview.trans h.preview
    confirmation := (hr.spent (consumed_of_spentBy h.spentBy)).trans h.confirmation
    checkpoint := h2.trans h.checkpoint
    guard := h3.trans h.guard
    change := h1.trans h.change
    calls := hr.callsOf.trans h.calls
    ended := fun he => h.ended (h5 he) }

theorem fresh (h : k.Agrees i x) (hf : k.Fresh i) : x.Fresh i :=
  ⟨h.owner',h.change.trans hf.2.1,by
    by_contra he
    exact absurd (hf.2.2.symm.trans (h.ended (by simpa using he))) (by simp)⟩

theorem writing (h : k.Agrees i x) (hw : k.Writing i ch) : x.Writing i ch :=
  ⟨h.owner',h.change.trans hw.2.1,hw.2.2⟩

theorem called (h : k.Agrees i x) {call : Call} (hc : call.request? = some i) :
    call ∈ x.journal ↔ call ∈ k.journal := by
  rw [← mem_callsOf hc,← mem_callsOf hc,h.calls]

theorem answered (h : k.Agrees i x) {report : GuardReport} (ha : k.Answered i report) : x.Answered i report :=
  ha.imp (h.called rfl).mpr (h.called rfl).mpr

theorem uncalled (h : k.Agrees i x) {purpose : Purpose} (hu : k.Uncalled i purpose) : x.Uncalled i purpose :=
  fun call hc a o l he => by
    subst he
    exact hu _ ((h.called rfl).mp hc) a o l rfl

/-- What the snapshot licenses, the rows license. -/
theorem licence {alone : Prop} (h : k.Agrees i x) (ho : c.owned) (hl : c.Licence i False k) :
    c.Licence i alone x := by
  have hheld : ¬k.held := by simp [h.owner.2]
  cases c with
  | targetCorrelated => trivial
  | admitRecovery => trivial
  | failCorrelation seen => exact h.fresh hl
  | failArming => exact h.fresh hl
  | failGuardArming seen => exact h.fresh hl
  | writeCheckpoint correlation => exact h.fresh hl
  | cross seen correlation => exact ⟨h.fresh hl.1,by rw [h.guard,h.preview]; exact hl.2⟩
  | insertGuard => exact ⟨h.fresh hl.1,by rw [h.preview]; exact hl.2⟩
  | recordArmed => exact ⟨h.fresh hl.1,(h.called rfl).mpr hl.2.1,by rw [h.guard]; exact hl.2.2⟩
  | settleAbandoned report => exact ⟨h.fresh hl.1,(h.called rfl).mpr hl.2.1,by rw [h.guard]; exact hl.2.2⟩
  | beginDispatch => obtain ⟨ch,hw,hr⟩ := hl; exact ⟨ch,h.writing hw,hr⟩
  | settle outcome =>
    obtain ⟨ch,hw,hb,hm,hv,hr,attempt,landed,hc⟩ := hl
    exact ⟨ch,h.writing hw,hb,hm,hv,hr,attempt,landed,(h.called rfl).mpr hc⟩
  | startVerification => obtain ⟨ch,hw,hr⟩ := hl; exact ⟨ch,h.writing hw,hr⟩
  | recordVerification read => obtain ⟨ch,hw,hr⟩ := hl; exact ⟨ch,h.writing hw,hr⟩
  | startRollback seen =>
    obtain ⟨ch,hw,hr⟩ := hl
    exact ⟨ch,h.writing hw,by rw [h.preview]; exact hr⟩
  | beginRollback => obtain ⟨ch,hw,hr⟩ := hl; exact ⟨ch,h.writing hw,hr⟩
  | recordRollback outcome => obtain ⟨ch,hw,hr⟩ := hl; exact ⟨ch,h.writing hw,hr⟩
  | startRollbackVerification seen =>
    rcases hl with ⟨ch,hw,hr⟩ | ⟨hh,_⟩
    · exact .inl ⟨ch,h.writing hw,hr⟩
    · exact absurd hh hheld
  | recordRollbackVerification read =>
    rcases hl with ⟨ch,hw,hr⟩ | ⟨hh,_⟩
    · exact .inl ⟨ch,h.writing hw,hr⟩
    · exact absurd hh hheld
  | finish seen effect state result reason =>
    obtain ⟨ch,hch,hr,he,_,hend⟩ := hl
    refine ⟨ch,h.change.trans hch,hr,he,.inl h.owner',?_⟩
    cases hend with
    | failed hm => exact .failed hm
    | succeeded hm hv hg => exact .succeeded hm hv fun hp => absurd (hg (h.preview ▸ hp)) hheld
    | rolledBack hm hv hf => exact .rolledBack hm hv (by rw [h.preview]; exact hf)
    | recoveryRequired reason hm => exact .recoveryRequired reason hm
  | settleGuard report =>
    obtain ⟨hg,ha,hn,⟨_,hc⟩ | hh | hf⟩ := hl
    · exact ⟨by rw [h.guard]; exact hg,h.answered ha,hn,.inl ⟨h.owner',by rw [h.change]; exact hc⟩⟩
    · exact absurd hh hheld
    · exact hf.elim
  | _ => cases ho

/-- An owner's commit does to the rows what it does to the snapshot. -/
theorem commit (h : k.Agrees i x) (ho : c.owned) : (c.rows i k).Agrees i (c.rows i x) := by
  have hm : ∀ u : ChangeColumns → ChangeColumns, x.change.map u = k.change.map u := fun u => by rw [h.change]
  have hg : ∀ u : GuardColumns → GuardColumns, x.guard.map u = k.guard.map u := fun u => by rw [h.guard]
  cases c with
  | targetCorrelated => exact h
  | admitRecovery => exact h
  | failCorrelation seen => exact { h with ended := id }
  | failArming => exact { h with ended := id }
  | failGuardArming seen => exact { h with ended := id }
  | writeCheckpoint correlation =>
    cases hk : k.preview.change with
    | field name current desired =>
      have hx : x.preview.change = .field name current desired := by rw [h.preview,hk]
      simp only [Commit.rows,hx,hk]
      exact { h with checkpoint := by simp only [h.preview] }
    | action verb observed expected =>
      have hx : x.preview.change = .action verb observed expected := by rw [h.preview,hk]
      simp only [Commit.rows,hx,hk]
      exact h
  | cross seen correlation => exact { h with change := by simp only [Commit.rows,h.preview], ended := id }
  | insertGuard => exact { h with guard := by simp only [Commit.rows,h.checkpoint,h.preview] }
  | recordArmed => exact { h with guard := hg _ }
  | settleAbandoned report => exact { h with guard := hg _ }
  | settleGuard report => exact { h with guard := hg _ }
  | beginDispatch => exact { h with change := hm _ }
  | settle outcome => exact { h with change := hm _ }
  | startVerification => exact { h with ended := id }
  | recordVerification read => exact { h with change := hm _ }
  | startRollback seen => exact { h with change := hm _, ended := id }
  | beginRollback => exact { h with change := hm _ }
  | recordRollback outcome => exact { h with change := hm _ }
  | startRollbackVerification seen => exact { h with ended := id }
  | recordRollbackVerification read => exact { h with change := hm _ }
  | finish seen effect state result reason => exact { h with change := hm _, ended := id }
  | _ => cases ho

/-- A call of the owner is heard in the snapshot as well. -/
theorem hear (h : k.Agrees i x) (call : Call) :
    Rows.Agrees i { k with journal := call :: k.journal } { x with journal := call :: x.journal } :=
  { h with
    calls := by
      have hc := h.calls
      unfold callsOf at hc ⊢
      simp only [List.filter_cons,hc] }

end Rows.Agrees

/-- The owner knows that the rows agree with some snapshot satisfying `K`. -/
def Owns (i : RequestId) (K : Rows → Prop) (x : Rows) : Prop := ∃ k, K k ∧ k.Agrees i x

theorem Owns.stable {q : Caller} (i : RequestId) (K : Rows → Prop) : q.Stable i (Owns i K) :=
  fun hr _ ⟨k,hk,h⟩ => ⟨k,hk,h.rely hr⟩

/-- The subject's fixed columns in a snapshot. -/
structure Subject.Same (s : Subject) (k : Rows) : Prop where
  object : k.object = s.object
  supported : k.supported = s.supported
  preview : k.preview = s.preview

theorem Subject.Fits.same {s : Subject} {i : RequestId} {k x : Rows} (hx : s.Fits x) (h : k.Agrees i x) :
    s.Same k :=
  ⟨h.object.symm.trans hx.object,h.supported.symm.trans hx.supported,h.preview.symm.trans hx.preview⟩

namespace Owns

variable {q : Caller} {i : RequestId} {s : Subject} {K K' : Rows → Prop} {α : Type} {r : RunId}

theorem pre {P : Rows → Prop} {p : Service α} {Q : Except Error α → Rows → Prop} (h : Serves q i s P p Q)
    (hK : ∀ {k}, s.Same k → k.Owner i → K k → P k) (hP : ∀ {k x}, k.Agrees i x → P k → P x) :
    Serves q i s (Owns i K) p Q :=
  h.pre fun hx ⟨_,hk,ha⟩ => hP ha (hK (hx.same ha) ha.owner hk)

theorem weaken {p : Service α} {Q : Except Error α → Rows → Prop} (h : Serves q i s (Owns i K') p Q)
    (hK : ∀ {k}, s.Same k → K k → K' k) : Serves q i s (Owns i K) p Q :=
  h.pre fun hx ⟨k,hk,ha⟩ => ⟨k,hK (hx.same ha) hk,ha⟩

theorem extract {p : Service α} {Q : Except Error α → Rows → Prop} {φ : Prop}
    (hφ : ∀ {k}, s.Same k → K k → φ) (h : φ → Serves q i s (Owns i K) p Q) : Serves q i s (Owns i K) p Q :=
  Serves.extract (fun hx ⟨_,hk,ha⟩ => hφ (hx.same ha) hk) h

theorem error {Q : α → Rows → Prop} {e : Error} : Serves q i s (Owns i K) (.ret (.error e)) (Serves.Yield Q) :=
  Serves.failed (stable i K)

theorem ret {Q : α → Rows → Prop} {v : α} (h : ∀ {k x}, s.Same k → K k → k.Agrees i x → Q v x) :
    Serves q i s (Owns i K) (.ret (.ok v)) (Serves.Yield Q) :=
  Serves.ret (stable i K) fun hx ⟨_,hk,ha⟩ => h (hx.same ha) hk ha

variable {Q : Except Error α → Rows → Prop}

theorem commit {c : Commit} {f : Unit → Service α} (K' : Rows → Prop) (hr : r = s.id) (ho : c.owned)
    (hl : ∀ {k}, s.Same k → k.Owner i → K k → c.Licence i False k)
    (hs : ∀ {k}, s.Same k → k.Owner i → K k → K' (c.rows i k)) (hn : Serves q i s (Owns i K') (f ()) Q)
    (he : ∀ e, Serves q i s (Owns i K) (.ret (.error e)) Q) :
    Serves q i s (Owns i K) (Service.commit r c >>= f) Q := by
  subst hr
  refine Serves.commit (Owns i K') (stable i K) ?_ ?_ ?_ hn he
  · exact fun hx ⟨k,hk,ha⟩ => ha.licence ho (hl (hx.same ha) ha.owner hk)
  · rintro _ _ _ rfl; cases ho
  · exact fun hx ⟨k,hk,ha⟩ _ => ⟨c.rows i k,hs (hx.same ha) ha.owner hk,ha.commit ho⟩

theorem lastCommit {Q : Except Error Unit → Rows → Prop} {c : Commit} (K' : Rows → Prop) (hr : r = s.id) (ho : c.owned)
    (hl : ∀ {k}, s.Same k → k.Owner i → K k → c.Licence i False k)
    (hs : ∀ {k}, s.Same k → k.Owner i → K k → K' (c.rows i k))
    (hok : ∀ {x}, Owns i K' x → Q (.ok ()) x) (herr : ∀ e {x}, Owns i K x → Q (.error e) x) :
    Serves q i s (Owns i K) (Service.commit r c) Q := by
  subst hr
  have hret : Serves q i s (Owns i K') (.ret (.ok ())) Q := Serves.ret (stable i K') fun _ hx => hok hx
  refine Serves.commit (Owns i K') (stable i K) ?_ ?_ ?_ hret fun e => Serves.ret (stable i K) fun _ hx => herr e hx
  · exact fun hx ⟨k,hk,ha⟩ => ha.licence ho (hl (hx.same ha) ha.owner hk)
  · rintro _ _ _ rfl; cases ho
  · exact fun hx ⟨k,hk,ha⟩ _ => ⟨c.rows i k,hs (hx.same ha) ha.owner hk,ha.commit ho⟩

theorem askRun {f : RunRecord → Service α} (hr : r = s.id)
    (hn : ∀ run : RunRecord, run.Of s → Serves q i s (Owns i K) (f run) Q) :
    Serves q i s (Owns i K) (Service.ask (.run r) >>= f) Q := by
  subst hr
  exact Serves.run (stable i K) fun run hrun => (hn run hrun).pre fun _ hx => hx.1

theorem gate {β : Type} {p : Service β} {f : β → Service α} (hp : p.All fun op => Serves.Reads op)
    (hn : ∀ a, Serves q i s (Owns i K) (f a) Q) (he : ∀ e, Serves q i s (Owns i K) (.ret (.error e)) Q) :
    Serves q i s (Owns i K) (p >>= f) Q := Serves.gate hp (stable i K) hn he

theorem requireChange {ch : ChangeColumns} {f : ChangeColumns → Service α} (hr : r = s.id)
    (hK : ∀ {k}, K k → k.change = some ch) (hn : Serves q i s (Owns i K) (f ch) Q) :
    Serves q i s (Owns i K) (Service.requireChange r >>= f) Q := by
  subst hr
  refine Serves.change (stable i K) fun change => ?_
  refine Serves.extract (fun _ hx => ?_) fun (hc : change = some ch) => ?_
  · obtain ⟨⟨k,hk,ha⟩,hc⟩ := hx
    exact hc.trans (ha.change.trans (hK hk))
  · subst hc
    exact hn.pre fun _ hx => hx.1

theorem mutate {m : MutationRequest} {f : MutationReport → Service α} (K' : MutationOutcome → Rows → Prop) (hr : r = s.id)
    (hl : ∀ {k}, s.Same k → k.Owner i → K k → m.Licence i k ∧ m.purpose ≠ .recovery)
    (hs : ∀ {k} outcome landed, s.Same k → k.Owner i → K k → K' outcome { k with
      journal := .mutated i m.purpose m.attempt outcome landed :: k.journal })
    (hn : ∀ report, Serves q i s (Owns i (K' report.outcome)) (f report) Q) :
    Serves q i s (Owns i K) (Service.ask (.mutate r m) >>= f) Q := by
  subst hr
  refine Serves.mutate (fun outcome => Owns i (K' outcome)) (stable i K) ?_ ?_ hn
  · intro x hx ⟨k,hk,ha⟩
    obtain ⟨⟨hu,hm⟩,hp⟩ := hl (hx.same ha) ha.owner hk
    refine ⟨ha.uncalled hu,?_⟩
    cases hpurpose : m.purpose with
    | apply =>
      rw [hpurpose] at hm
      obtain ⟨ch,hw,hrest⟩ := hm
      exact ⟨ch,ha.writing hw,hrest⟩
    | rollback =>
      rw [hpurpose] at hm
      obtain ⟨ch,hw,hrest⟩ := hm
      exact ⟨ch,ha.writing hw,hrest⟩
    | recovery => exact absurd hpurpose hp
  · intro x outcome landed hx ⟨k,hk,ha⟩
    exact ⟨_,hs outcome landed (hx.same ha) ha.owner hk,ha.hear _⟩

theorem armGuard {guard : ArmedGuard} {f : Except String Unit → Service α} (K' : Except String Unit → Rows → Prop)
    (hr : r = s.id) (hg : guard.run = s.id ∧ guard.object = s.object ∧
      ∃ name, s.preview.change = .field name guard.restore guard.guarded)
    (hl : ∀ {k}, s.Same k → k.Owner i → K k → k.Fresh i ∧ k.preview.isGuarded ∧ .guardAsked i true ∉ k.journal ∧
      ∃ g, k.guard = some g ∧ g.armed = false ∧ g.settled = none)
    (hs : ∀ {k} held answer, s.Same k → k.Owner i → K k → (answer = .ok () → held = true) →
      K' answer { k with journal := .guardAsked i held :: k.journal })
    (hn : ∀ answer, Serves q i s (Owns i (K' answer)) (f answer) Q) :
    Serves q i s (Owns i K) (Service.ask (.armGuard r guard) >>= f) Q := by
  subst hr
  refine Serves.armGuard (fun a => Owns i (K' a)) (stable i K) ?_ ?_ hn
  · intro w hI hw
    obtain ⟨k,hk,ha⟩ := hw.holds
    obtain ⟨hf,hp,hj,hrow⟩ := hl ((hw.fits hI).same ha) ha.owner hk
    refine ⟨ha.fresh hf,?_,fun hc => hj ((ha.called rfl).mp hc),by rw [ha.guard]; exact hrow,hg.1,?_,?_⟩
    · rw [hw.preview,← ((hw.fits hI).same ha).preview]; exact hp
    · rw [hw.object]; exact hg.2.1
    · rw [hw.preview]; exact hg.2.2
  · intro x held answer hx ⟨k,hk,ha⟩ hh
    exact ⟨_,hs held answer (hx.same ha) ha.owner hk hh,ha.hear _⟩

theorem disarmGuard {f : GuardReport → Service α} (K' : GuardReport → Rows → Prop) (hr : r = s.id)
    (hl : ∀ {k}, s.Same k → k.Owner i → K k → k.guard.isSome ∧
      ((k.Fresh i ∧ ∃ g, k.guard = some g ∧ g.armed = false ∧ g.settled = none) ∨
        ∃ ch, k.change = some ch ∧ ch.result ≠ .inFlight))
    (hs : ∀ {k} report, report ≠ .armed → s.Same k → k.Owner i → K k →
      K' report { k with journal := .guardReleased i report :: k.journal })
    (hn : ∀ report, Serves q i s (Owns i (K' report)) (f report) Q) :
    Serves q i s (Owns i K) (Service.ask (.disarmGuard r) >>= f) Q := by
  subst hr
  refine Serves.disarmGuard (fun a => Owns i (K' a)) (stable i K) ?_ ?_ hn
  · intro w hI hw
    obtain ⟨k,hk,ha⟩ := hw.holds
    obtain ⟨hsome,hcase⟩ := hl ((hw.fits hI).same ha) ha.owner hk
    have hrow : (w.files s.id).guard.isSome := by
      have hg : (w.files s.id).rows.guard = k.guard := ha.guard
      have hmap : ((w.files s.id).guard.map (·.1)).isSome := by rw [← hg] at hsome; exact hsome
      simpa using hmap
    refine ⟨hrow,?_⟩
    rcases hcase with ⟨hf,hg⟩ | hc
    · exact .inl ⟨ha.fresh hf,by rw [ha.guard]; exact hg⟩
    · exact .inr (.inl ⟨ha.owner',by rw [ha.change]; exact hc⟩)
  · intro x report hn hx ⟨k,hk,ha⟩
    exact ⟨_,hs report hn (hx.same ha) ha.owner hk,ha.hear _⟩

end Owns
end LocalPlane
