import LocalPlane.SequentialRequests

/-!
# What the record of a dispatch rests on

An executor is asked to apply a Change at most once, by the request that consumed the
confirmation. A Change that says nothing was dispatched is right about it, and one that
says nothing was written repeats what the executor answered.
-/

set_option linter.dupNamespace false

namespace LocalPlane

open Interleaved

/-- An executor was asked to apply the Change, and answered so. -/
def Call.applied (outcome : MutationOutcome) (call : Call) : Prop := ∃ j a l, call = .mutated j .apply a outcome l

/-- The Change says that no request has left for its executor. -/
def ChangeColumns.undispatched (c : ChangeColumns) : Bool := !c.dispatchBegan && c.mutation.isNone

structure Rows.Accounted (x : Rows) : Prop where
  owned : ∀ j a o l, .mutated j .apply a o l ∈ x.journal → x.spentBy j
  once : ∀ call ∈ x.journal, ∀ call' ∈ x.journal, ∀ o o', call.applied o → call'.applied o' → call = call'
  silent : (∀ ch, x.change = some ch → ch.undispatched) → ∀ call ∈ x.journal, ∀ o, ¬call.applied o
  refused : ∀ ch, x.change = some ch → ch.mutation = some .notWritten →
    ∀ call ∈ x.journal, ∀ o, call.applied o → o = .notWritten

namespace Commit

variable {i : RequestId} {alone : Prop} {locked : Bool} {x : Rows} {c : Commit}

/-- A confirmation that was consumed stays consumed by the same request. -/
theorem spentBy_rows (hl : c.Licence i alone x) (hr : c.Requires locked x) {j : RequestId} (h : x.spentBy j) :
    (c.rows i x).spentBy j := by
  cases hq : c.quiet with
  | true => exact ((rows_quiet hq hr).spentBy j).trans h
  | false =>
    by_cases hc : ∃ seen, c = .consumeConfirmation seen
    · obtain ⟨seen,rfl⟩ := hc
      obtain ⟨⟨d,hd,hn,_⟩,_⟩ := hr
      simp [Rows.spentBy,hd,hn] at h
    · exact ((rows_kept hq (fun seen h => hc ⟨seen,h⟩) hl hr).spentBy j).trans h

/-- What a commit makes of what a Change says about its dispatch. -/
inductive Dispatched (c : Commit) (x : Rows) (ch' : ChangeColumns) : Prop
  | same (ch) (hch : x.change = some ch) (hb : ch'.dispatchBegan = ch.dispatchBegan) (hm : ch'.mutation = ch.mutation)
  | crossed (seen correlation) (hc : c = .cross seen correlation)
  | begun (ch) (hc : c = .beginDispatch) (hch : x.change = some ch) (hb : ch'.dispatchBegan) (hm : ch'.mutation = ch.mutation)
  | settled (outcome) (hc : c = .settle outcome) (hm : ch'.mutation = some outcome)
  | interrupted (outcome) (hc : c = .interruptDispatch outcome) (hm : ch'.mutation = some outcome)

theorem rows_dispatched {ch' : ChangeColumns} (h : (c.rows i x).change = some ch') : Dispatched c x ch' := by
  have hamend : ∀ {u : ChangeColumns → ChangeColumns}, x.change.map u = some ch' →
      (∀ ch, (u ch).dispatchBegan = ch.dispatchBegan ∧ (u ch).mutation = ch.mutation) → Dispatched c x ch' := by
    intro u h hu
    obtain ⟨ch,hch,rfl⟩ := Option.map_eq_some_iff.mp h
    exact .same ch hch (hu ch).1 (hu ch).2
  cases c with
  | cross seen correlation => exact .crossed seen correlation rfl
  | beginDispatch =>
    obtain ⟨ch,hch,rfl⟩ := Option.map_eq_some_iff.mp h
    exact .begun ch rfl hch rfl rfl
  | settle outcome =>
    obtain ⟨ch,hch,rfl⟩ := Option.map_eq_some_iff.mp h
    exact .settled outcome rfl rfl
  | interruptDispatch outcome =>
    obtain ⟨ch,hch,rfl⟩ := Option.map_eq_some_iff.mp h
    exact .interrupted outcome rfl rfl
  | writeCheckpoint correlation => simp only [rows] at h; split at h <;> exact .same ch' h rfl rfl
  | spendRecovery correlation =>
    simp only [rows] at h
    split at h
    · exact .same ch' h rfl rfl
    · rw [reattempt_change] at h; exact .same ch' h rfl rfl
  | recordEvidence read => rw [rows,reattempt_change] at h; exact .same ch' h rfl rfl
  | recordRecovery outcome => rw [rows,reattempt_change] at h; exact .same ch' h rfl rfl
  | recordRecoveryVerification read => rw [rows,reattempt_change] at h; exact .same ch' h rfl rfl
  | completeRecovery outcome => rw [rows,reattempt_change] at h; exact .same ch' h rfl rfl
  | settleRetry outcome => rw [rows,reattempt_change] at h; exact .same ch' h rfl rfl
  | refuseRecovery code => rw [rows,reattempt_change] at h; exact .same ch' h rfl rfl
  | interruptAttempt openedBy unknown => rw [rows,reattempt_change] at h; exact .same ch' h rfl rfl
  | recordVerification read => exact hamend h fun _ => ⟨rfl,rfl⟩
  | startRollback seen => exact hamend h fun _ => ⟨rfl,rfl⟩
  | beginRollback => exact hamend h fun _ => ⟨rfl,rfl⟩
  | recordRollback outcome => exact hamend h fun _ => ⟨rfl,rfl⟩
  | recordRollbackVerification read => exact hamend h fun _ => ⟨rfl,rfl⟩
  | finish seen effect state result reason => exact hamend h fun _ => ⟨rfl,rfl⟩
  | startLapse seen => exact hamend h fun _ => ⟨rfl,rfl⟩
  | recordReversal attempt outcome => exact hamend h fun _ => ⟨rfl,rfl⟩
  | _ => exact .same ch' h rfl rfl

end Commit

namespace Rows

variable {i : RequestId} {alone : Prop} {locked : Bool} {x : Rows} {c : Commit}

/-- A licensed commit keeps the account. -/
theorem Accounted.commit (h : x.Accounted) (hl : c.Licence i alone x) (hr : c.Requires locked x) :
    (c.rows i x).Accounted := by
  have hjournal : (c.rows i x).journal = x.journal := Commit.rows_frame.2.2.2.1
  refine ⟨fun j a o l hm => ?_,?_,fun hnone => ?_,fun ch' hch' hn => ?_⟩
  · exact Commit.spentBy_rows hl hr (h.owned j a o l (hjournal ▸ hm))
  · rw [hjournal]; exact h.once
  · rw [hjournal]
    refine h.silent fun ch hch => ?_
    cases hch' : (c.rows i x).change with
    | none => rw [Commit.change_kept hch'] at hch; cases hch
    | some ch' =>
      have hu := hnone ch' hch'
      simp only [ChangeColumns.undispatched,Bool.and_eq_true,Bool.not_eq_true',Option.isNone_iff_eq_none] at hu ⊢
      cases Commit.rows_dispatched hch' with
      | same ch₀ hch₀ hb hm =>
        obtain rfl := Option.some.inj (hch.symm.trans hch₀)
        exact ⟨hb ▸ hu.1,hm ▸ hu.2⟩
      | crossed seen correlation hc => subst hc; rw [hr.1] at hch; cases hch
      | begun ch₀ hc hch₀ hb hm => rw [hb] at hu; cases hu.1
      | settled outcome hc hm => rw [hm] at hu; cases hu.2
      | interrupted outcome hc hm => rw [hm] at hu; cases hu.2
  · rw [hjournal]
    cases Commit.rows_dispatched hch' with
    | same ch hch hb hm => exact h.refused ch hch (hm ▸ hn)
    | crossed seen correlation hc =>
      subst hc
      refine fun call hcall o ho => absurd ho (h.silent (fun ch hch => ?_) call hcall o)
      rw [hr.1] at hch
      cases hch
    | begun ch hc hch hb hm => exact h.refused ch hch (hm ▸ hn)
    | settled outcome hc hm =>
      subst hc
      obtain ⟨ch,_,_,_,_,_,attempt,landed,hcall⟩ := hl
      intro call hmem o ho
      have hsame := h.once call hmem _ hcall o outcome ho ⟨i,attempt,landed,rfl⟩
      obtain ⟨_,_,_,rfl⟩ := ho
      cases hsame
      exact Option.some.inj (hm.symm.trans hn)
    | interrupted outcome hc hm =>
      subst hc
      obtain ⟨_,_,ch,hch,_,hnone,hout⟩ := hl
      have hrefused : outcome = .notWritten := Option.some.inj (hm.symm.trans hn)
      have hbegan : ch.dispatchBegan = false := by
        rw [hrefused] at hout
        cases hb : ch.dispatchBegan with
        | false => rfl
        | true => rw [hb] at hout; cases hout
      have hsilent : ∀ ch₀, x.change = some ch₀ → ch₀.undispatched := fun ch₀ h₀ => by
        obtain rfl := Option.some.inj (hch.symm.trans h₀)
        simp [ChangeColumns.undispatched,hbegan,hnone]
      exact fun call hcall o ho => absurd ho (h.silent hsilent call hcall o)

/-- A call that dispatches nothing leaves the account alone. -/
theorem Accounted.hear (h : x.Accounted) {new : List Call} (hn : ∀ call ∈ new, ∀ o, ¬call.applied o) :
    Accounted { x with journal := new ++ x.journal } := by
  have hold : ∀ {call o}, call ∈ new ++ x.journal → call.applied o → call ∈ x.journal := fun hc ho =>
    (List.mem_append.mp hc).resolve_left fun hm => hn _ hm _ ho
  exact {
    owned := fun j a o l hm => h.owned j a o l (hold hm ⟨j,a,l,rfl⟩)
    once := fun call hc call' hc' o o' ho ho' => h.once call (hold hc ho) call' (hold hc' ho') o o' ho ho'
    silent := fun hs call hc o ho => h.silent hs call (hold hc ho) o ho
    refused := fun ch hch hr call hc o ho => h.refused ch hch hr call (hold hc ho) o ho }

/-- The one dispatch of a Change that is being written. -/
theorem Accounted.apply (h : x.Accounted) {m : MutationRequest} (hm : m.Licence i x) (hp : m.purpose = .apply)
    (outcome : MutationOutcome) (landed : Bool) :
    Accounted { x with journal := .mutated i m.purpose m.attempt outcome landed :: x.journal } := by
  obtain ⟨hu,hwriting⟩ := hm
  rw [hp] at hu hwriting
  obtain ⟨ch,hw,hb,hnone,_⟩ := hwriting
  have hspent : x.spentBy i := hw.1.1
  have hquiet : ∀ call ∈ x.journal, ∀ o, ¬call.applied o := by
    rintro call hcall o ⟨j,a,l,rfl⟩
    obtain rfl : j = i := spentBy_unique (h.owned j a o l hcall) hspent
    exact hu _ hcall a o l rfl
  have hhead : ∀ {call o}, call ∈ Call.mutated i m.purpose m.attempt outcome landed :: x.journal → call.applied o →
      call = .mutated i m.purpose m.attempt outcome landed := fun hc ho =>
    (List.mem_cons.mp hc).resolve_right fun hmem => hquiet _ hmem _ ho
  exact {
    owned := fun j a o l hmem => by
      have he := hhead hmem ⟨j,a,l,rfl⟩
      rw [(Call.mutated.inj he).1]
      exact hspent
    once := fun call hc call' hc' o o' ho ho' => (hhead hc ho).trans (hhead hc' ho').symm
    silent := fun hs => absurd (hs ch hw.2.1) (by simp [ChangeColumns.undispatched,hb])
    refused := fun ch' hch' hr => by
      obtain rfl := Option.some.inj (hw.2.1.symm.trans hch')
      rw [hnone] at hr
      cases hr }

end Rows

theorem World.mutate_elsewhere {w : World} {i : RequestId} {a r : RunId} {m : MutationRequest} {outcome : MutationOutcome}
    {landed : Bool} (h : r ≠ a) : (w.mutate i a m outcome landed).files r = w.files r := by
  unfold World.mutate
  split
  · dsimp only
    split <;> exact Function.update_of_ne h ..
  · exact Function.update_of_ne h ..

/-- An invariant of a Run's rows and of what its executors were asked, and what it owes. -/
structure Attested (K : Rows → Prop) : Prop where
  pristine : ∀ {f : RunFile}, f.pristine → K f.rows
  hear : ∀ {x : Rows} {new : List Call}, K x → (∀ call ∈ new, call.dispatch = false) → K { x with journal := new ++ x.journal }
  mutate : ∀ {i : RequestId} {x : Rows} {m : MutationRequest} (outcome : MutationOutcome) (landed : Bool), x.Coherent → m.Licence i x →
    K x → K { x with journal := .mutated i m.purpose m.attempt outcome landed :: x.journal }
  commit : ∀ {i : RequestId} {alone : Prop} {locked : Bool} {x : Rows} {c : Commit}, x.Coherent → c.Licence i alone x →
    c.Requires locked x → K x → K (c.rows i x)

theorem Attested.preserved {K : Rows → Prop} (h : Attested K) : protocol.Preserved .free fun w => ∀ r, K (w.files r).rows where
  initial hw r := h.pristine (hw.pristine r)
  step := by
    intro i op (w : World) out hI hl _ (hJ : ∀ r, K (w.files r).rows) r
    show K ((World.perform i op out w).2.files r).rows
    by_cases hcommit : ∃ a c, op = .commit a c
    · obtain ⟨a,c,rfl⟩ := hcommit
      rcases World.commit_cases w i a c with ⟨e,he⟩ | ⟨f,_,hf,he⟩
      · simp only [World.perform,he]
        exact hJ r
      · obtain ⟨hreq,hrows⟩ := Commit.run_ok hf
        obtain ⟨_,_,hc⟩ := hl
        simp only [World.perform,he]
        show K ((w.setFile a f).files r).rows
        rw [World.rows_setFile]
        split
        · next hra =>
          subst hra
          rw [hrows]
          exact h.commit (hI.coherent r) hc.1 hreq (hJ r)
        · exact hJ r
    by_cases hmutate : ∃ a m, op = .mutate a m
    · obtain ⟨a,m,rfl⟩ := hmutate
      obtain ⟨_,_,hm⟩ := hl
      simp only [World.perform]
      rcases eq_or_ne r a with rfl | hr
      · rw [World.mutate_rows]
        exact h.mutate _ _ (hI.coherent r) hm (hJ r)
      · rw [World.mutate_elsewhere hr]
        exact hJ r
    · obtain ⟨new,hn,hnew⟩ := World.perform_unwritten i op out w (fun a c h => hcommit ⟨a,c,h⟩) r
      rw [hn]
      refine h.hear (hJ r) fun call hc => ?_
      by_contra hd
      exact hmutate (hnew _ hc (by simpa using hd))
  enter {q w i w'} _ he hJ r := by
    rw [(World.enter_same he).1]
    exact hJ r
  outer {e w w'} _ _ he hJ r := by
    obtain ⟨new,hn,hnew⟩ := World.unwritten_outer he r
    rw [hn]
    exact h.hear (hJ r) hnew
  crash _ _ hJ := hJ

theorem accounted_attested : Attested Rows.Accounted where
  pristine {f} hf := by
    obtain ⟨_,_,_,_,_,_,hchange,_,_,hjournal⟩ := hf
    have hrows : f.rows.journal = [] := hjournal
    have hnone : f.rows.change = none := by simp [RunFile.rows,hchange]
    exact {
      owned := fun j a o l hm => by rw [hrows] at hm; cases hm
      once := fun call hc => by rw [hrows] at hc; cases hc
      silent := fun _ call hc => by rw [hrows] at hc; cases hc
      refused := fun ch hch => by rw [hnone] at hch; cases hch }
  hear hx hnew := by
    refine hx.hear fun call hc o => ?_
    rintro ⟨j,a,l,rfl⟩
    cases hnew _ hc
  mutate {i x m} outcome landed _ hm hx := by
    by_cases hp : m.purpose = .apply
    · exact hx.apply hm hp outcome landed
    · have hother : ∀ call ∈ [Call.mutated i m.purpose m.attempt outcome landed], ∀ o, ¬call.applied o := by
        rintro call hc o ⟨j,b,l,rfl⟩
        exact hp (Call.mutated.inj (List.mem_singleton.mp hc)).2.1.symm
      exact hx.hear hother
  commit _ hl hr hx := hx.commit hl hr

/-- In every run the dispatch records of every Run are accounted for. -/
theorem accounted_preserved : protocol.Preserved .free fun w => ∀ r, (w.files r).rows.Accounted := accounted_attested.preserved

end LocalPlane
