import LocalPlane.Ownership

/-!
# Up to the consumed confirmation

Everything an apply does before it owns its Run: reads, checks that can only refuse,
and the transaction that consumes the authority.
-/

set_option linter.dupNamespace false

namespace LocalPlane

/-- The request has called nothing and opened nothing yet. -/
structure Rows.Untried (i : RequestId) (x : Rows) : Prop where
  uncalled : x.callsOf i = []
  unopened : ∀ a ∈ x.attempts, a.openedBy ≠ i

theorem Rows.Untried.stable {q : Caller} (i : RequestId) : q.Stable i (Rows.Untried i) :=
  fun hr _ h => ⟨hr.callsOf.trans h.uncalled,fun a ha ho => h.unopened a (hr.unopened a ha ho) ho⟩

/-- The confirmation is consumed; nobody was called, no guard and no Change exist. -/
structure Rows.Started (i : RequestId) (k : Rows) : Prop where
  change : k.change = none
  guard : k.guard = none
  ended : k.ended = false
  uncalled : k.callsOf i = []

/-- Consuming makes the request the owner of rows on which nothing was written yet. -/
theorem Rows.Untried.spend {i : RequestId} {x : Rows} (h : x.Untried i) (hI : x.Coherent)
    (hc : ∃ c, x.confirmation = some c ∧ c.consumedBy = none ∧ c.digest = x.preview.digest) :
    Owns i (Rows.Started i) (x.spend i) := by
  obtain ⟨c,hcc,hcn,_⟩ := hc
  have hu : x.consumed = false := by simp [Rows.consumed,hcc,Confirmation.consumed,hcn]
  obtain ⟨_,hg,hch⟩ := hI.untouched hu
  have howner : (x.spend i).Owner i :=
    ⟨by simp [Rows.spend,Rows.spentBy,hcc],hI.not_held_of_unconsumed hu⟩
  have hended : (x.spend i).ended = false := by
    have hs : x.ended = false := by
      rcases hI.early hu with ha | ha
      · simp [Rows.ended,appliable_not_terminal ha]
      · simp [Rows.ended,ha]
    by_cases ha : x.preview.armsRecovery
    · simp [Rows.spend,Rows.ended,Rows.state,ha,RunState.terminal]
    · unfold Rows.ended Rows.state at hs ⊢
      simpa only [Rows.spend,if_neg ha] using hs
  exact ⟨x.spend i,⟨hch,hg,hended,h.uncalled⟩,.refl howner⟩

namespace Service

variable {q : Caller} {i : RequestId} {s : Subject} {α : Type}

theorem requireTarget_reads (r : RunId) : (requireTarget r).All fun op => Serves.Reads op :=
  ⟨rfl,fun b => by cases b <;> trivial⟩

theorem requireExecutor_reads (run : RunRecord) : (requireExecutor run).All fun op => Serves.Reads op := by
  unfold requireExecutor
  split <;> trivial

theorem requireExecutablePreview_reads (run : RunRecord) :
    (requireExecutablePreview run).All fun op => Serves.Reads op := by
  unfold requireExecutablePreview
  split <;> trivial

theorem planNow_reads (r : RunId) : (planNow r).All fun op => Serves.Reads op :=
  ⟨rfl,fun answer => by cases answer <;> trivial⟩

theorem correlate_reads (r : RunId) : (correlate r).All fun op => Serves.Reads op :=
  ⟨rfl,fun answer => by cases answer <;> trivial⟩

theorem openHold_reads (r : RunId) : (openHold r).All fun op => Serves.Reads op := ⟨rfl,fun _ => trivial⟩

theorem readBack_reads (run : RunRecord) (expectation : Expectation) :
    (readBack run expectation).All fun op => Serves.Reads op := ⟨rfl,fun _ => trivial⟩

/-- What an apply has once its gates and its consumption are behind it. -/
abbrev Admitted (i : RequestId) (s : Subject) : Except Error RunRecord → Rows → Prop :=
  Serves.Yield fun run x => run.Of s ∧ Owns i (Rows.Started i) x

/-- Taking the lock moves no row; whoever passes has the Run's own record in hand. -/
theorem serves_acquire {P : Rows → Prop} {f : RunRecord → Service α} {Q : α → Rows → Prop} (hP : q.Stable i P)
    (hn : ∀ run, run.Of s → Serves q i s P (f run) (Serves.Yield Q)) :
    Serves q i s P (acquire s.id >>= f) (Serves.Yield Q) :=
  Serves.acquire hP fun answer hof => match answer with
    | .ok run => hn run (hof run rfl)
    | .error _ => Serves.failed hP

theorem serves_consume {run : RunRecord} (hrun : run.Of s) :
    Serves q i s (Rows.Untried i) (do
      commit run.id (.consumeConfirmation run.state)
      ask (.run run.id)) (Admitted i s) := by
  rw [hrun.id]
  have hread : Serves q i s (Owns i (Rows.Started i)) (ask (.run s.id)) (Admitted i s) := by
    refine Serves.run (Owns.stable i _) fun run hrun => ?_
    have hret : Serves q i s (Owns i (Rows.Started i)) (.ret (.ok run)) (Admitted i s) :=
      Serves.ret (Owns.stable i _) fun _ hx => ⟨hrun,hx⟩
    exact hret.pre fun _ hx => hx.1
  refine Serves.commit _ (Rows.Untried.stable i) ?_ ?_ ?_ hread ?_
  · exact fun _ _ => trivial
  · rintro _ _ _ h; cases h
  · exact fun hx h hreq => h.spend hx.coherent hreq.1
  · exact fun e => Serves.ret (Rows.Untried.stable i) fun _ _ => trivial

theorem serves_gates {run : RunRecord} (hrun : run.Of s) :
    Serves q i s (Rows.Untried i) (gates run) (Admitted i s) := by
  have herr : ∀ e, Serves q i s (Rows.Untried i) (.ret (.error e)) (Admitted i s) :=
    fun e => Serves.ret (Rows.Untried.stable i) fun _ _ => trivial
  unfold gates
  refine Serves.gate (requireTarget_reads _) (Rows.Untried.stable i) (fun _ => ?_) herr
  refine Serves.gate (requireExecutablePreview_reads _) (Rows.Untried.stable i) (fun _ => ?_) herr
  refine Serves.gate (planNow_reads _) (Rows.Untried.stable i) (fun _ => ?_) herr
  unfold consumeConfirmation
  split
  · rw [hrun.id]
    have hread : Serves q i s (Rows.Untried i) (do
        let run ← ask (.run s.id)
        commit run.id (.consumeConfirmation run.state)
        ask (.run run.id)) (Admitted i s) :=
      Serves.run (Rows.Untried.stable i) fun run hrun => (serves_consume hrun).pre fun _ hx => hx.1
    refine Serves.commit _ (Rows.Untried.stable i) ?_ ?_ ?_ hread herr
    · exact fun _ _ => trivial
    · rintro _ _ _ h; cases h
    · exact fun _ h _ => ⟨h.uncalled,h.unopened⟩
  · exact serves_consume hrun

/-- A refusal is written down, which needs no licence; what was consumed stays consumed. -/
theorem serves_refusingApply {body : Service RunRecord} (h : Serves q i s (Rows.Untried i) body (Admitted i s)) :
    Serves q i s (Rows.Untried i) (refusingApply s.id body) (Admitted i s) := by
  have hstable : q.Stable i fun _ : Rows => True := fun _ _ _ => trivial
  have hret : ∀ e, Serves q i s (fun _ => True) (.ret (.error e)) (Admitted i s) :=
    fun e => Serves.ret hstable fun _ _ => trivial
  unfold refusingApply
  refine Serves.tryCatch h (fun run => ?_) fun e => ?_
  · refine Serves.extract (fun _ hx => hx.1) fun hrun => ?_
    have hret : Serves q i s (Owns i (Rows.Started i)) (.ret (.ok run)) (Admitted i s) :=
      Serves.ret (Owns.stable i _) fun _ hx => ⟨hrun,hx⟩
    exact hret.pre fun _ hx => hx.2
  · cases e with
    | refused code =>
      refine Serves.commit (fun _ => True) hstable (fun _ _ => trivial) ?_ (fun _ _ _ => trivial) (hret _) hret
      rintro _ _ _ h; cases h
    | integrity => exact hret _
    | assertion => exact hret _

end Service
end LocalPlane
