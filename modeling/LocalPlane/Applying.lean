import LocalPlane.Arming

/-!
# From the boundary to the ending

Crossing, dispatching, verifying, and every way an apply ends: kept waiting on its
connection, finished, rolled back, or admitted as recovery.
-/

set_option linter.dupNamespace false

namespace LocalPlane

/-- A Change that has not been rolled back and has not ended. -/
structure ChangeColumns.Unrolled (ch : ChangeColumns) : Prop where
  result : ch.result = .inFlight
  required : ch.rollbackRequired = false
  attempt : ch.rollbackAttempt = none
  outcome : ch.rollbackOutcome = none

/-- Past the boundary with this Change, under what was prepared for it. -/
structure Rows.Crossed (s : Subject) (cp : Option Checkpoint) (ch : ChangeColumns) (k : Rows) : Prop where
  change : k.change = some ch
  planned : ch.planned = s.preview.change
  checkpoint : cp.isSome → k.checkpoint = cp
  guard : s.preview.isGuarded → ∃ g, k.guard = some g ∧ g.armed ∧ g.settled = none

/-- The Change ended under this request. -/
structure Rows.Done (s : Subject) (k : Rows) : Prop where
  change : ∃ ch, k.change = some ch ∧ ch.result ≠ .inFlight
  guard : s.preview.isGuarded → k.guard.isSome

namespace Rows.Crossed

variable {i : RequestId} {s : Subject} {cp : Option Checkpoint} {ch : ChangeColumns} {k : Rows}

theorem writing (h : k.Crossed s cp ch) (ho : k.Owner i) (hr : ch.result = .inFlight) : k.Writing i ch :=
  ⟨ho,h.change,hr⟩

/-- The Change moves and nothing else does. -/
theorem next {ch' : ChangeColumns} {k' : Rows} (h : k.Crossed s cp ch) (hc : k'.change = some ch')
    (hp : ch'.planned = ch.planned) (hk : k'.checkpoint = k.checkpoint) (hg : k'.guard = k.guard) :
    k'.Crossed s cp ch' where
  change := hc
  planned := hp.trans h.planned
  checkpoint := by rw [hk]; exact h.checkpoint
  guard := by rw [hg]; exact h.guard

theorem move {run : RunColumns} (h : k.Crossed s cp ch) : Crossed s cp ch { k with run } := { h with }

end Rows.Crossed

namespace Service

open Serves

variable {q : Caller} {i : RequestId} {s : Subject} {run : RunRecord} {cp : Option Checkpoint}
  {state : RunState} {result : ChangeResult} {reason : Option RecoveryReason} (ch : ChangeColumns)

/-- What every way of ending leaves. -/
abbrev Concluded (i : RequestId) (s : Subject) : Except Error Ended → Rows → Prop :=
  Yield fun ended x => ended.1.Of s ∧ Owns i (Rows.Done s) x

/-- An owner ends its Change from what the Change records. -/
theorem serves_finish (hrun : run.Of s) (hin : ch.result = .inFlight)
    (hend : ∀ {k : Rows}, s.Same k → Ending k ch state result reason) :
    Serves q i s (Owns i (Rows.Crossed s cp ch)) (finish run state result reason) (Concluded i s) := by
  let past : ChangeColumns := { ch with result, recoveryReason := reason, finished := true }
  unfold finish
  refine Owns.requireChange hrun.id (fun hk => hk.change) ?_
  refine Owns.commit (fun k => k.Done s ∧ k.change = some past) hrun.id rfl ?_ ?_ ?_ fun _ => Owns.error
  · exact fun hs ho hk => ⟨ch,hk.change,hin,rfl,.inl ho,hend hs⟩
  · intro k hs _ hk
    have hresult : past.result ≠ .inFlight := by cases hend hs <;> simp [past]
    have hchange : ((Commit.finish run.state ch.hostEffect state result reason).rows i k).change = some past := by
      simp [Commit.rows,Rows.amend,Rows.conclude,hk.change,past]
    refine ⟨⟨⟨past,hchange,hresult⟩,fun hg => ?_⟩,hchange⟩
    obtain ⟨g,hgk,_⟩ := hk.guard hg
    show k.guard.isSome
    simp [hgk]
  · refine Owns.askRun hrun.id fun run hrun => ?_
    exact Owns.requireChange hrun.id (fun hk => hk.2) (Owns.ret fun _ hk ha => ⟨hrun,_,hk.1,ha⟩)

theorem serves_recover (hrun : run.Of s) (hin : ch.result = .inFlight)
    (hm : ch.mutation = some .written ∨ ch.mutation = some .writeUnknown) {reason : RecoveryReason} :
    Serves q i s (Owns i (Rows.Crossed s cp ch)) (recover run reason) (Concluded i s) :=
  Owns.commit _ hrun.id rfl (fun _ _ _ => trivial) (fun _ _ hk => hk)
    (serves_finish ch hrun hin fun _ => .recoveryRequired reason hm) fun _ => Owns.error

theorem serves_proveRollback (hrun : run.Of s) (hf : s.preview.armsRecovery) (hin : ch.result = .inFlight)
    (hreq : ch.rollbackRequired) (hatt : ch.rollbackAttempt = some (.rollback i))
    (hout : ch.rollbackOutcome = some .written ∨ ch.rollbackOutcome = some .notWritten)
    (hm : ch.mutation = some .written ∨ ch.mutation = some .writeUnknown) (change : ChangeColumns)
    (report : MutationReport) :
    Serves q i s (Owns i (Rows.Crossed s cp ch)) (proveRollback run change report) (Concluded i s) := by
  have hlicence : ∀ {k : Rows}, k.Owner i → k.Crossed s cp ch → ∃ ch, k.Writing i ch ∧ ch.rollbackRequired ∧
      ch.rollbackAttempt = some (.rollback i) ∧
      (ch.rollbackOutcome = some .written ∨ ch.rollbackOutcome = some .notWritten) :=
    fun ho hk => ⟨ch,hk.writing ho hin,hreq,hatt,hout⟩
  unfold proveRollback
  refine Owns.commit (Rows.Crossed s cp ch) hrun.id rfl (fun _ ho hk => .inl (hlicence ho hk))
    (fun _ _ hk => hk.move) ?_ fun _ => Owns.error
  refine Owns.askRun hrun.id fun run hrun => ?_
  refine Owns.gate (readBack_reads _ _) (fun read => ?_) fun _ => Owns.error
  let read' : ChangeColumns := { ch with
    rollbackVerification := read.outcome, rollbackVerificationObservation := read.observation
    rollbackVerificationValue := read.value }
  refine Owns.commit (Rows.Crossed s cp read') hrun.id rfl (fun _ ho hk => .inl (hlicence ho hk))
    ?_ ?_ fun _ => Owns.error
  · exact fun _ _ hk => hk.next (by simp [Commit.rows,Rows.amend,hk.change,read']) rfl rfl rfl
  refine Owns.askRun hrun.id fun run hrun => ?_
  refine Owns.requireChange hrun.id (fun hk => hk.change) ?_
  split
  · next hp =>
    refine serves_finish read' hrun hin fun hs => ?_
    exact .rolledBack hm ((proved_iff _).mp hp) (by rw [hs.preview]; exact hf)
  · exact serves_recover read' hrun hin hm

/-- The rollback and its proof, from a Change that was not proved. -/
theorem serves_rollBack (hrun : run.Of s) {checkpoint : Checkpoint} (hcp : s.Prepared (some checkpoint))
    (hch : ch.Unrolled) (hv : ch.verification ≠ .verified)
    (hm : ch.mutation = some .written ∨ ch.mutation = some .writeUnknown) :
    Serves q i s (Owns i fun k => k.Crossed s (some checkpoint) ch ∧ k.Uncalled i .rollback)
      (rollBack i run ch checkpoint) (Concluded i s) := by
  have harms : s.preview.armsRecovery := by rw [Preview.armsRecovery,hcp.1]; rfl
  have hin := hch.result
  let required : ChangeColumns := { ch with rollbackRequired := true }
  unfold rollBack
  refine Owns.commit (fun k => k.Crossed s (some checkpoint) required ∧ k.Uncalled i .rollback) hrun.id rfl
    ?_ ?_ ?_ fun _ => Owns.error
  · exact fun hs ho hk => ⟨ch,hk.1.writing ho hin,by rw [hs.preview]; exact harms,hch.required,hv,hm⟩
  · exact fun _ _ hk => ⟨hk.1.next (by simp [Commit.rows,Rows.amend,Rows.enter,hk.1.change,required]) rfl rfl rfl,hk.2⟩
  refine Owns.askRun hrun.id fun run hrun => ?_
  refine Owns.gate (readBack_reads _ _) (fun current => ?_) fun _ => Owns.error
  split
  · have hrecover : Serves q i s (Owns i (Rows.Crossed s (some checkpoint) required))
        (recover run (preRollbackReason current.outcome)) (Concluded i s) :=
      serves_recover required hrun hin hm
    exact Owns.weaken hrecover fun _ hk => hk.1
  next value _ =>
  let begun : ChangeColumns := { required with
    rollbackAttempt := some (.rollback i), rollbackDispatchBegan := true }
  refine Owns.commit (fun k => k.Crossed s (some checkpoint) begun ∧ k.Uncalled i .rollback) hrun.id rfl
    ?_ ?_ ?_ fun _ => Owns.error
  · exact fun _ ho hk => ⟨required,hk.1.writing ho hin,rfl,hch.attempt,hch.outcome⟩
  · exact fun _ _ hk => ⟨hk.1.next (by simp [Commit.rows,Rows.amend,hk.1.change,begun]) rfl rfl rfl,hk.2⟩
  refine Owns.mutate (fun _ => Rows.Crossed s (some checkpoint) begun) hrun.id ?_ ?_ fun report => ?_
  · intro k _ ho hk
    refine ⟨⟨hk.2,begun,hk.1.writing ho hin,rfl,rfl,hch.outcome,rfl,checkpoint.field,checkpoint.before,
      checkpoint.desired,value,hk.1.planned.trans hcp.1,rfl⟩,by simp⟩
  · exact fun _ _ _ _ hk => ⟨hk.1.change,hk.1.planned,hk.1.checkpoint,hk.1.guard⟩
  let recorded : ChangeColumns := { begun with rollbackOutcome := some report.outcome }
  refine Owns.commit (Rows.Crossed s (some checkpoint) recorded) hrun.id rfl ?_ ?_ ?_ fun _ => Owns.error
  · exact fun _ ho hk => ⟨begun,hk.writing ho hin,rfl,rfl,hch.outcome⟩
  · exact fun _ _ hk => hk.next (by simp [Commit.rows,Rows.amend,hk.change,recorded]) rfl rfl rfl
  refine Owns.requireChange hrun.id (fun hk => hk.change) ?_
  split
  · exact serves_recover recorded hrun hin hm
  · next hu =>
    refine serves_proveRollback recorded hrun harms hin rfl rfl ?_ hm _ _
    cases ho : report.outcome with
    | written => exact .inl (congrArg some ho)
    | notWritten => exact .inr (congrArg some ho)
    | writeUnknown => exact absurd ho hu

theorem serves_unproven (hrun : run.Of s) (hcp : s.Prepared cp) (hch : ch.Unrolled) (hv : ch.verification ≠ .verified)
    (hm : ch.mutation = some .written ∨ ch.mutation = some .writeUnknown) (read : Option ReadBack) :
    Serves q i s (Owns i fun k => k.Crossed s cp ch ∧ k.Uncalled i .rollback) (unproven i run ch cp read)
      (Concluded i s) := by
  have hrecover : ∀ reason, Serves q i s (Owns i fun k => k.Crossed s cp ch ∧ k.Uncalled i .rollback)
      (recover run reason) (Concluded i s) := fun reason =>
    Owns.weaken (serves_recover ch hrun hch.result hm) fun _ hk => hk.1
  cases cp with
  | some checkpoint => exact serves_rollBack ch hrun hcp hch hv hm
  | none => cases read <;> exact hrecover _

/-- Releasing the guard once the Change has ended, and leaving. -/
theorem serves_releaseGuard {α : Type} (hrun : run.Of s) (answer : α) :
    Runs q i s (Owns i (Rows.Done s)) (do releaseGuard run; return answer) := by
  unfold releaseGuard
  split
  · next hg =>
    rw [hrun.preview] at hg
    refine Owns.disarmGuard (fun report k => k.Done s ∧ .guardReleased i report ∈ k.journal ∧ report ≠ .armed)
      hrun.id ?_ ?_ fun report => ?_
    · exact fun _ _ hk => ⟨hk.guard hg,.inr hk.change⟩
    · exact fun report hn _ _ hk => ⟨⟨hk.change,hk.guard⟩,List.mem_cons_self,hn⟩
    refine Owns.commit (fun _ => True) hrun.id rfl ?_ (fun _ _ _ => trivial) ?_ fun _ => Owns.error
    · exact fun _ ho hk => ⟨hk.1.guard hg,.inl hk.2.1,hk.2.2,.inl ⟨ho,hk.1.change⟩⟩
    · exact Owns.ret fun _ _ _ => trivial
  · exact Owns.ret fun _ _ _ => trivial

/-- The ending, the guard's release after it, and the answer. -/
theorem serves_ended {K : Rows → Prop} {body : Service Ended} (h : Serves q i s (Owns i K) body (Concluded i s)) :
    Runs q i s (Owns i K) (do
      let ended ← body
      releaseGuard ended.1
      return Response.ended ended.1 ended.2) := by
  refine andThen _ h fun ended => ?_
  refine Serves.extract (fun _ hx => hx.1) fun hof => ?_
  exact (serves_releaseGuard hof (Response.ended ended.1 ended.2)).pre fun _ hx => hx.2

/-- The Change as the mutation's outcome leaves it. -/
structure Settled (ch : ChangeColumns) (answer : MutationOutcome) : Prop extends ch.Unrolled where
  mutation : ch.mutation = some answer
  effect : ch.hostEffect = hostEffectFor answer
  unverified : ch.verification = .notAttempted

theorem serves_hold (hrun : run.Of s) (hcp : s.Prepared cp) (hg : s.preview.isGuarded) (hch : ch.Unrolled)
    (hm : ch.mutation = some .written) (he : ch.hostEffect = .written) (hv : ch.verification = .verified) :
    Runs q i s (Owns i (Rows.Crossed s cp ch)) (do
      let ended ← hold run
      return Response.ended ended.1 ended.2) := by
  have hstable : q.Stable i fun _ : Rows => True := fun _ _ _ => trivial
  have hsome : cp.isSome := by
    cases cp with
    | some checkpoint => rfl
    | none =>
      have hf := s.preview.guarded_field (of_decide_eq_true hg)
      exact absurd (hcp.symm.trans hf) (by simp)
  have hdone : Runs q i s (fun _ => True) (do
      let run ← ask (.run run.id)
      let change ← requireChange run.id
      return Response.ended run change) := by
    refine Serves.gate ⟨rfl,fun _ => trivial⟩ hstable (fun run => ?_) fun e => failed hstable
    refine Serves.gate ⟨rfl,fun change => by cases change <;> trivial⟩ hstable (fun change => ?_) fun e => failed hstable
    exact Serves.ret hstable fun _ _ => trivial
  rw [hrun.id] at hdone
  unfold hold
  simp only [Program.bind_assoc]
  rw [hrun.id]
  refine Serves.commit (fun _ => True) (Owns.stable i _) ?_ ?_ (fun _ _ _ => trivial) hdone fun _ => Owns.error
  · intro x hx ⟨k,hk,ha⟩
    obtain ⟨g,hgk,harmed,hunsettled⟩ := hk.guard hg
    refine ⟨ch,g,ha.writing (hk.writing ha.owner hch.result),hm,he,hv,hch.required,?_,?_,ha.guard.trans hgk,harmed,hunsettled⟩
    · rw [hx.preview]; exact hg
    · rw [ha.checkpoint,hk.checkpoint hsome]; exact hsome
  · rintro _ _ _ h; cases h

theorem serves_conclude (hrun : run.Of s) (hcp : s.Prepared cp) (report : MutationReport)
    (hch : Settled ch report.outcome) :
    Runs q i s (Owns i fun k => k.Crossed s cp ch ∧ k.Uncalled i .rollback) (conclude i run ch cp report) := by
  have hin := hch.result
  unfold conclude
  split
  · next ho =>
    have hfailed : Serves q i s (Owns i fun k => k.Crossed s cp ch ∧ k.Uncalled i .rollback)
        (finish run .failed .failed none) (Concluded i s) :=
      Owns.weaken (serves_finish ch hrun hin fun _ => .failed (hch.mutation.trans (congrArg some ho))) fun _ hk => hk.1
    exact serves_ended hfailed
  · next ho =>
    have hm : ch.mutation = some .written := hch.mutation.trans (congrArg some ho)
    unfold verify
    simp only [Program.bind_assoc]
    refine Owns.commit (fun k => k.Crossed s cp ch ∧ k.Uncalled i .rollback) hrun.id rfl ?_ ?_ ?_ fun _ => Owns.error
    · exact fun _ hown hk => ⟨ch,hk.1.writing hown hin,hm,hch.unverified,hch.required⟩
    · exact fun _ _ hk => ⟨hk.1.move,hk.2⟩
    refine Owns.gate (readBack_reads _ _) (fun read => ?_) fun _ => Owns.error
    let read' : ChangeColumns := { ch with
      verification := read.outcome, verificationObservation := read.observation
      verificationValue := read.value
      verificationState := if ch.planned.isField then ch.verificationState else read.state }
    refine Owns.commit (fun k => k.Crossed s cp read' ∧ k.Uncalled i .rollback) hrun.id rfl ?_ ?_ ?_ fun _ => Owns.error
    · exact fun _ hown hk => ⟨ch,hk.1.writing hown hin,hm,hch.unverified,hch.required⟩
    · exact fun _ _ hk => ⟨hk.1.next (by simp [Commit.rows,Rows.amend,hk.1.change,read']) rfl rfl rfl,hk.2⟩
    refine Owns.askRun hrun.id fun run hrun => ?_
    refine Owns.requireChange hrun.id (fun hk => hk.1.change) ?_
    have hun : read'.Unrolled := ⟨hin,hch.required,hch.attempt,hch.outcome⟩
    simp only [Program.pure_eq,Program.bind_ok]
    split
    · next hp =>
      have hv : read'.verification = .verified := (proved_iff _).mp hp
      split
      · next hg =>
        rw [hrun.preview] at hg
        have he : read'.hostEffect = .written := by rw [show read'.hostEffect = ch.hostEffect from rfl,hch.effect,ho]; rfl
        exact Owns.weaken (serves_hold read' hrun hcp hg hun hm he hv) fun _ hk => hk.1
      · next hg =>
        rw [hrun.preview] at hg
        have hended : Serves q i s (Owns i fun k => k.Crossed s cp read' ∧ k.Uncalled i .rollback)
            (finish run .succeeded .succeeded none) (Concluded i s) :=
          Owns.weaken (serves_finish read' hrun hin fun hs => .succeeded hm hv fun hg' =>
            absurd (hs.preview ▸ hg') hg) fun _ hk => hk.1
        refine andThen _ hended fun ended => Serves.pre ?_ fun _ hx => hx.2
        exact Owns.ret fun _ _ _ => trivial
    · next hp =>
      have hv : read'.verification ≠ .verified := fun h => hp ((proved_iff _).mpr h)
      exact serves_ended (serves_unproven read' hrun hcp hun hv (.inl hm) (some read))
  · next ho =>
    have hm : ch.mutation = some .writeUnknown := hch.mutation.trans (congrArg some ho)
    exact serves_ended (serves_unproven ch hrun hcp hch.toUnrolled (by simp [hch.unverified]) (.inr hm) none)

theorem applyRequest_purpose (change : ChangeColumns) : (applyRequest change).purpose = .apply := by
  unfold applyRequest
  split <;> rfl

/-- Crossing the boundary, the dispatch, its record, and everything that follows. -/
theorem serves_execute (hrun : run.Of s) (hcp : s.Prepared cp) (correlation : Correlation) :
    Runs q i s (Owns i (Rows.Covered i s cp)) (do
      let change ← cross run correlation
      let run ← ask (.run s.id)
      let report ← dispatch run change
      let change ← settle run report
      let run ← ask (.run s.id)
      conclude i run change cp report) := by
  let crossed : ChangeColumns := .fresh s.preview i correlation
  let begun : ChangeColumns := { crossed with dispatchBegan := true }
  unfold cross dispatch settle
  simp only [Program.bind_assoc]
  refine Owns.commit (fun k => k.Crossed s cp crossed ∧ ∀ p a o l, .mutated i p a o l ∉ k.callsOf i) hrun.id rfl
    ?_ ?_ ?_ fun _ => Owns.error
  · exact fun hs ho hk => ⟨⟨ho,hk.change,hk.ended⟩,fun hg => hk.guard (hs.preview ▸ hg)⟩
  · intro k hs _ hk
    refine ⟨⟨?_,rfl,hk.checkpoint,hk.guard⟩,hk.undispatched⟩
    simp [Commit.rows,crossed,hs.preview]
  refine Owns.requireChange hrun.id (fun hk => hk.1.change) ?_
  refine Owns.askRun rfl fun run hrun => ?_
  refine Owns.commit (fun k => k.Crossed s cp begun ∧ ∀ p a o l, .mutated i p a o l ∉ k.callsOf i) hrun.id rfl
    ?_ ?_ ?_ fun _ => Owns.error
  · exact fun _ ho hk => ⟨crossed,hk.1.writing ho rfl,rfl,rfl,rfl,rfl⟩
  · exact fun _ _ hk => ⟨hk.1.next (by simp [Commit.rows,Rows.amend,hk.1.change,begun]) rfl rfl rfl,hk.2⟩
  refine Owns.mutate (fun outcome k => (k.Crossed s cp begun ∧ k.Uncalled i .rollback) ∧
    ∃ attempt landed, .mutated i .apply attempt outcome landed ∈ k.journal) hrun.id ?_ ?_ fun report => ?_
  · intro k _ ho hk
    have hu : ∀ purpose, k.Uncalled i purpose := fun purpose call hc a o l he => by
      subst he
      exact hk.2 _ a o l ((Rows.mem_callsOf rfl).mpr hc)
    refine ⟨⟨hu _,?_⟩,by simp [applyRequest_purpose]⟩
    rw [applyRequest_purpose]
    exact ⟨begun,hk.1.writing ho rfl,rfl,rfl,rfl,rfl,rfl⟩
  · intro k outcome landed _ _ hk
    refine ⟨⟨⟨hk.1.change,hk.1.planned,hk.1.checkpoint,hk.1.guard⟩,fun call hc a o l he => ?_⟩,(applyRequest crossed).attempt,landed,?_⟩
    rotate_left
    · rw [applyRequest_purpose]; exact List.mem_cons_self
    subst he
    rcases List.mem_cons.mp hc with hc | hc
    · rw [applyRequest_purpose] at hc; cases hc
    · exact hk.2 _ a o l ((Rows.mem_callsOf rfl).mpr hc)
  let settled : ChangeColumns := { begun with
    mutation := some report.outcome, hostEffect := hostEffectFor report.outcome }
  refine Owns.commit (fun k => k.Crossed s cp settled ∧ k.Uncalled i .rollback) hrun.id rfl ?_ ?_ ?_ fun _ => Owns.error
  · exact fun _ ho hk => ⟨begun,hk.1.1.writing ho rfl,rfl,rfl,rfl,rfl,hk.2⟩
  · exact fun _ _ hk => ⟨hk.1.1.next (by simp [Commit.rows,Rows.record,Rows.amend,hk.1.1.change,settled]) rfl rfl rfl,hk.1.2⟩
  refine Owns.requireChange hrun.id (fun hk => hk.1.change) ?_
  refine Owns.askRun rfl fun run hrun => ?_
  exact serves_conclude settled hrun hcp report ⟨⟨rfl,rfl,rfl,rfl⟩,rfl,rfl,rfl⟩

/-- An apply keeps to its licences from the first read to its answer. -/
theorem serves_apply : Runs q i s (Rows.Untried i) (apply i s.id) := by
  have hfailed : ∀ e, Runs q i s (Rows.Untried i) (.ret (.error e) : Service Response) :=
    fun e => failed (Rows.Untried.stable i)
  unfold apply
  refine Serves.gate ⟨rfl,fun _ => trivial⟩ (Rows.Untried.stable i) (fun run => ?_) hfailed
  refine Serves.gate (requireExecutor_reads run) (Rows.Untried.stable i) (fun _ => ?_) hfailed
  refine serves_acquire (Rows.Untried.stable i) fun run hrun => ?_
  refine andThen _ (serves_refusingApply (serves_gates hrun)) fun run => ?_
  refine Serves.extract (fun _ hx => hx.1) fun hrun => Serves.pre ?_ fun _ hx => hx.2
  refine andThen _ (serves_prepare hrun) fun prepared => ?_
  refine Serves.extract (fun _ hx => hx.1) fun hcp => Serves.pre ?_ fun _ hx => hx.2
  obtain ⟨cp,correlation⟩ := prepared
  have hexecute := serves_execute (q := q) (i := i) hrun hcp correlation
  simp only
  split
  · next hg => exact andThen _ (serves_armGuard hrun hcp hg) fun _ => hexecute
  · next hg =>
    refine Owns.weaken hexecute fun _ hk => ⟨hk.change,hk.ended,hk.checkpoint,fun hg' => ?_,fun p a o l hc => ?_⟩
    · rw [hrun.preview] at hg; exact absurd hg' hg
    · rw [hk.uncalled] at hc; cases hc

end Service
end LocalPlane
