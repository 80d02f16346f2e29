import LocalPlane.Applying

/-!
# Keeping a guarded change

The requests that come after the hold. One of them releases the guard or reports what
the guard did, whoever records it first settles it, and only the settler ends the Change.
-/

set_option linter.dupNamespace false

namespace LocalPlane

/-- Waiting on its connection, and this request has the holder's report. -/
def Rows.Reported (i : RequestId) (report : GuardReport) (x : Rows) : Prop := x.Waiting ∧ x.Answered i report

/-- The hold is over on this request's account, and the Change has not ended. -/
structure Rows.Settling (i : RequestId) (c : ChangeColumns) (x : Rows) : Prop where
  held : x.held
  settler : x.settledBy i
  change : x.change.map (·.core) = some c

namespace Rows

variable {i : RequestId} {x x' : Rows} {c : ChangeColumns} {report : GuardReport}

theorem Rely.mem {call : Call} (h : Rows.Rely i x x') (hc : call ∈ x.journal) : call ∈ x'.journal := by
  obtain ⟨new,hn,_⟩ := h.calls
  rw [hn]
  exact List.mem_append_right _ hc

theorem Rely.answered (h : Rows.Rely i x x') (ha : x.Answered i report) : x'.Answered i report :=
  ha.imp h.mem h.mem

theorem Waiting.stable {q : Caller} (i : RequestId) : q.Stable i Rows.Waiting := fun hr _ h => hr.waiting h

theorem Reported.stable {q : Caller} (i : RequestId) (report : GuardReport) : q.Stable i (Rows.Reported i report) :=
  fun hr _ h => ⟨hr.waiting h.1,hr.answered h.2⟩

theorem Settling.rely (hr : Rows.Rely i x x') (h : x.Settling i c) : x'.Settling i c :=
  ⟨hr.held h.held,hr.settled h.settler,(hr.settler h.settler h.held).trans h.change⟩

theorem Settling.stable {q : Caller} (i : RequestId) (c : ChangeColumns) : q.Stable i (Rows.Settling i c) :=
  fun hr _ h => h.rely hr

theorem Waiting.guard (h : x.Waiting) (hI : x.Coherent) : x.guard.isSome := by
  obtain ⟨ch,g,_,hg,_⟩ := hI.held h.1
  simp [hg]

/-- An unsettled guard keeps a waiting Change from ending. -/
theorem Waiting.settling (h : x.Waiting) (hI : x.Coherent) (hs : ∀ g, x.guard = some g → g.settled = none) :
    ∃ ch, x.change = some ch ∧ ch.result = .inFlight := by
  obtain ⟨ch,g,hch,hg,_⟩ := hI.held h.1
  exact ⟨ch,hch,h.2 ch g hch hg (hs g hg)⟩

/-- What the hold established about the Change that is being settled. -/
theorem Settling.row (h : x.Settling i c) (hI : x.Coherent) : ∃ ch, x.change = some ch ∧ ch.core = c ∧
    ch.mutation = some .written ∧ ch.verification = .verified ∧ x.preview.isGuarded := by
  obtain ⟨ch,g,hch,_,hm,_,hv,hp,_⟩ := hI.held h.held
  have hc := h.change
  rw [hch] at hc
  exact ⟨ch,hch,Option.some.inj hc,hm,hv,hp⟩

end Rows

theorem Preview.armsRecovery_of_guarded {p : Preview} (h : p.isGuarded) : p.armsRecovery :=
  p.guarded_field (of_decide_eq_true h)

namespace Service

open Serves

variable {q : Caller} {i : RequestId} {s : Subject} {run : RunRecord} {α : Type} {P : Rows → Prop}

theorem true_stable (i : RequestId) : q.Stable i fun _ => True := fun _ _ _ => trivial

/-- A commit other than the record of a proof, followed by a program; an abort promises nothing. -/
theorem serves_commit {c : Commit} {r : RunId} {f : Unit → Service α} {Q : α → Rows → Prop} (P' : Rows → Prop)
    (hr : r = s.id) (hP : q.Stable i P) (hc : ∀ evidence, c ≠ .keep evidence)
    (hl : ∀ {x}, s.Fits x → P x → c.Licence i q.alone x)
    (hs : ∀ {x locked}, s.Fits x → P x → c.Requires locked x → P' (c.rows i x))
    (hn : Serves q i s P' (f ()) (Yield Q)) : Serves q i s P (commit r c >>= f) (Yield Q) := by
  subst hr
  exact Serves.commit P' hP hl (fun _ h => absurd h (hc _)) hs hn fun _ => failed hP

/-- Reads whose answers the rest does not depend on. -/
theorem serves_reads {β : Type} {p : Service β} {f : β → Service α} {Q : α → Rows → Prop}
    (hp : p.All fun op => Reads op) (hP : q.Stable i P) (hn : ∀ a, Serves q i s P (f a) (Yield Q)) :
    Serves q i s P (p >>= f) (Yield Q) := gate hp hP hn fun _ => failed hP

theorem requireChange_reads (r : RunId) : (requireChange r).All fun op => Reads op :=
  ⟨rfl,fun change => by cases change <;> trivial⟩

theorem ask_reads {op : Op} (h : Reads op) : (ask op).All fun op => Reads op := ⟨h,fun _ => trivial⟩

/-- The Run's record, with the state it had when it was read. -/
theorem serves_askState {r : RunId} {f : RunRecord → Service α} {Q : α → Rows → Prop} (hr : r = s.id)
    (hP : q.Stable i P) (hn : ∀ run : RunRecord, run.Of s →
      Serves q i s (fun x => P x ∧ run.state = x.state) (f run) (Yield Q)) :
    Serves q i s P (ask (.run r) >>= f) (Yield Q) := by
  subst hr
  exact Serves.run hP hn

theorem serves_askRun {r : RunId} {f : RunRecord → Service α} {Q : α → Rows → Prop} (hr : r = s.id)
    (hP : q.Stable i P) (hn : ∀ run : RunRecord, run.Of s → Serves q i s P (f run) (Yield Q)) :
    Serves q i s P (ask (.run r) >>= f) (Yield Q) :=
  serves_askState hr hP fun run hrun => (hn run hrun).pre fun _ hx => hx.1

section Settler

variable {c : ChangeColumns} {state : RunState} {result : ChangeResult} {reason : Option RecoveryReason}

/-- The settler ends the Change from what the hold recorded about it. -/
theorem runs_finishHeld (hrun : run.Of s) (hin : c.result = .inFlight)
    (hend : ∀ {x ch}, s.Fits x → x.Settling i c → x.change = some ch → Ending x ch state result reason) :
    Runs q i s (Rows.Settling i c) (finish run state result reason) := by
  have hP : q.Stable i (Rows.Settling i c) := Rows.Settling.stable i c
  unfold finish
  rw [hrun.id]
  refine Serves.change hP fun change => ?_
  cases change with
  | none => exact (failed hP).pre fun _ hx => hx.1
  | some settled =>
  refine Serves.extract (fun {x} _ hx => ?_) fun (hcore : settled.core = c) => Serves.pre ?_ fun _ hx => hx.1
  · have hchange := hx.1.change
    rw [← hx.2] at hchange
    exact Option.some.inj hchange
  refine serves_commit (fun _ => True) rfl hP nofun ?_ (fun _ _ _ => trivial) ?_
  · intro x hx hset
    obtain ⟨ch,hch,hcc,_⟩ := hset.row hx.coherent
    have heffect : settled.hostEffect = ch.hostEffect := by
      show settled.core.hostEffect = ch.core.hostEffect
      rw [hcore,hcc]
    have hresult : ch.result = .inFlight := (congrArg ChangeColumns.result hcc).trans hin
    exact ⟨ch,hch,hresult,heffect,.inr (.inl ⟨hset.held,hset.settler⟩),hend hx hset hch⟩
  · refine serves_askRun rfl (true_stable i) fun run hrun => ?_
    refine serves_reads (requireChange_reads _) (true_stable i) fun change => ?_
    exact Serves.ret (true_stable i) fun _ _ => trivial

theorem runs_recoverHeld (hrun : run.Of s) (hin : c.result = .inFlight) {reason : RecoveryReason} :
    Runs q i s (Rows.Settling i c) (recover run reason) := by
  refine serves_commit _ hrun.id (Rows.Settling.stable i c) nofun (fun _ _ => trivial) (fun _ hx _ => hx) ?_
  refine runs_finishHeld hrun hin fun hx hset hch => ?_
  obtain ⟨ch,hch',_,hm,_⟩ := hset.row hx.coherent
  cases hch.symm.trans hch'
  exact .recoveryRequired reason (.inl hm)

/-- The restoration a guard reported is proved from a fresh reading, or recovery is admitted. -/
theorem runs_proveReversal (hrun : run.Of s) (hin : c.result = .inFlight) (change : ChangeColumns)
    (recoveryReason : VerificationOutcome → RecoveryReason) :
    Runs q i s (fun x => x.Settling i c ∧ x.Answered i (.fired .written)) (do
      commit run.id (.startRollbackVerification run.state)
      let run ← ask (.run run.id)
      let read ← readBack run (restoredExpectation change)
      commit run.id (.recordRollbackVerification read)
      let run ← ask (.run run.id)
      let _ ← requireChange run.id
      if read.outcome.proved then finish run .rolledBack .rolledBack none
      else recover run (recoveryReason read.outcome)) := by
  let P := fun x : Rows => x.Settling i c ∧ x.Answered i (.fired .written)
  have hP : q.Stable i P := fun hr _ h => ⟨h.1.rely hr,hr.answered h.2⟩
  have hlicence : ∀ {x : Rows}, s.Fits x → x.Settling i c → x.Answered i (.fired .written) →
      x.held ∧ (x.settledBy i ∨ q.alone) ∧ (∃ ch, x.change = some ch ∧ ch.result = .inFlight) ∧
        x.Answered i (.fired .written) := by
    intro x hx hset ha
    obtain ⟨ch,hch,hcc,_⟩ := hset.row hx.coherent
    exact ⟨hset.held,.inl hset.settler,⟨ch,hch,(congrArg ChangeColumns.result hcc).trans hin⟩,ha⟩
  refine serves_commit P hrun.id hP nofun (fun hx h => .inr (hlicence hx h.1 h.2)) ?_ ?_
  · exact fun _ h _ => ⟨⟨h.1.held,h.1.settler,h.1.change⟩,h.2⟩
  refine serves_askRun hrun.id hP fun run hrun => ?_
  refine serves_reads (readBack_reads _ _) hP fun read => ?_
  let proved : ChangeColumns := { c with
    rollbackVerification := read.outcome, rollbackVerificationObservation := read.observation
    rollbackVerificationValue := read.value }
  refine serves_commit (Rows.Settling i proved) hrun.id hP nofun (fun hx h => .inr (hlicence hx h.1 h.2)) ?_ ?_
  · intro x _ hx h _
    obtain ⟨ch,hch,hcc,_⟩ := h.1.row hx.coherent
    refine ⟨h.1.held,h.1.settler,?_⟩
    subst hcc
    simp [Commit.rows,Rows.amend,hch,proved,ChangeColumns.core]
  refine serves_askRun hrun.id (Rows.Settling.stable i _) fun run hrun => ?_
  refine serves_reads (requireChange_reads _) (Rows.Settling.stable i _) fun _ => ?_
  split
  · next hp =>
    refine runs_finishHeld hrun hin fun {x ch} hx hset hch => ?_
    obtain ⟨ch',hch',hcc,hm,_,hg⟩ := hset.row hx.coherent
    cases hch.symm.trans hch'
    have hread : ch.rollbackVerification = read.outcome := congrArg ChangeColumns.rollbackVerification hcc
    exact .rolledBack (.inl hm) (hread.trans ((proved_iff _).mp hp)) (Preview.armsRecovery_of_guarded hg)
  · refine runs_recoverHeld hrun ?_
    exact hin

/-- The hold is over: the settlement is recorded from a report that says so. -/
theorem serves_settleGuard {report : GuardReport} {f : Unit → Service α} {Q : α → Rows → Prop} (hrun : run.Of s)
    (hr : report ≠ .armed) (hn : ∀ c, c.result = .inFlight →
      Serves q i s (fun x => x.Settling i c ∧ x.Answered i report) (f ()) (Yield Q)) :
    Serves q i s (Rows.Reported i report) (commit run.id (.settleGuard report) >>= f) (Yield Q) := by
  refine serves_commit (fun x => ∃ c, c.result = .inFlight ∧ x.Settling i c ∧ x.Answered i report) hrun.id
    (Rows.Reported.stable i report) nofun ?_ ?_ ?_
  · exact fun hx h => ⟨h.1.guard hx.coherent,h.2,hr,.inr (.inl h.1.1)⟩
  · intro x _ hx h hreq
    obtain ⟨ch,hch,hin⟩ := h.1.settling hx.coherent hreq
    refine ⟨ch.core,hin,⟨h.1.1,?_,?_⟩,h.2⟩
    · simp [Commit.rows,Rows.credit]
    · simp [Commit.rows,Rows.credit,Rows.settleWith,hch]
  · refine Serves.exists' fun c => ?_
    exact Serves.extract (fun _ hx => hx.1) fun hin => (hn c hin).pre fun _ hx => hx.2

/-- What settling a lapse comes to once what became of the guard is recorded. -/
def settleReport (run : RunRecord) (change : ChangeColumns) (report : GuardReport) : Service Ended := do
  commit run.id (.settleGuard report)
  let run ← ask (.run run.id)
  match report with
  | .lost => recover run .guardLost
  | .disarmed => recover run .guardReleasedWithoutRecordedProof
  | .armed | .unreachable => recover run .guardUnreachable
  | .fired outcome =>
    if outcome ≠ .written then recover run .guardReversalUnproven
    else
      commit run.id (.startRollbackVerification run.state)
      let run ← ask (.run run.id)
      let read ← readBack run (restoredExpectation change)
      commit run.id (.recordRollbackVerification read)
      let run ← ask (.run run.id)
      let _ ← requireChange run.id
      if read.outcome.proved then finish run .rolledBack .rolledBack none
      else recover run (recoveryReason read.outcome ⟨outcome,true⟩)

theorem runs_settleReport (hrun : run.Of s) {report : GuardReport} (hr : report ≠ .armed) (change : ChangeColumns) :
    Runs q i s (Rows.Reported i report) (settleReport run change report) := by
  refine serves_settleGuard hrun hr fun c hin => ?_
  have hstable : q.Stable i fun x => x.Settling i c ∧ x.Answered i report :=
    fun hr _ h => ⟨h.1.rely hr,hr.answered h.2⟩
  refine serves_askRun hrun.id hstable fun run hrun => ?_
  have hrecover : ∀ reason, Runs q i s (fun x => x.Settling i c ∧ x.Answered i report) (recover run reason) :=
    fun reason => (runs_recoverHeld hrun hin).pre fun _ hx => hx.1
  cases report with
  | armed => exact hrecover _
  | disarmed => exact hrecover _
  | lost => exact hrecover _
  | unreachable => exact hrecover _
  | fired outcome =>
    simp only
    split
    · exact hrecover _
    · next ho =>
      cases not_not.mp ho
      exact runs_proveReversal hrun hin change fun outcome => recoveryReason outcome ⟨.written,true⟩

theorem runs_settleLapsed (hrun : run.Of s) {report : GuardReport} (hr : report ≠ .armed) (change : ChangeColumns)
    (guard : GuardColumns) : Runs q i s (Rows.Reported i report) (settleLapsed run change guard report) := by
  have hP : q.Stable i (Rows.Reported i report) := Rows.Reported.stable i report
  unfold settleLapsed
  refine serves_reads (ask_reads rfl) hP fun checkpoint => ?_
  cases checkpoint with
  | none => exact failed hP
  | some checkpoint =>
  cases report with
  | fired outcome =>
    refine serves_commit (Rows.Reported i (.fired outcome)) hrun.id hP nofun (fun _ h => ⟨h.1.1,outcome,h.2⟩)
      (fun _ h _ => ⟨h.1.amend fun _ => rfl,h.2⟩) ?_
    refine serves_commit (Rows.Reported i (.fired outcome)) hrun.id hP nofun (fun _ h => ⟨h.1.1,h.2⟩)
      (fun _ h _ => ⟨h.1.amend fun _ => rfl,h.2⟩) ?_
    refine serves_askRun hrun.id hP fun run hrun => ?_
    refine serves_reads (requireChange_reads _) hP fun _ => ?_
    exact runs_settleReport hrun hr change
  | _ => exact runs_settleReport hrun hr change

/-- The connection was proved and the guard released: the record of the proof, and the ending. -/
theorem runs_keepGuarded {verdict : Verdict} {acknowledge : Bool} (hrun : run.Of s)
    (hq : q.request = .keep s.id verdict acknowledge) (hv : verdict.relation s.object = .onManagementPath) :
    Runs q i s (fun x => x.Waiting ∧ .guardReleased i .disarmed ∈ x.journal) (keepGuarded run verdict) := by
  have hP : q.Stable i fun x => x.Waiting ∧ .guardReleased i .disarmed ∈ x.journal :=
    fun hr _ h => ⟨hr.waiting h.1,hr.mem h.2⟩
  have hend : Runs q i s (fun x => ∃ c, c.result = .inFlight ∧ x.Settling i c) (do
      let run ← ask (.run s.id)
      let _ ← requireChange run.id
      finish run .succeeded .succeeded none) := by
    refine Serves.exists' fun c => Serves.extract (fun _ hx => hx.1) fun hin => Serves.pre ?_ fun _ hx => hx.2
    refine serves_askRun rfl (Rows.Settling.stable i c) fun run hrun => ?_
    refine serves_reads (requireChange_reads _) (Rows.Settling.stable i c) fun _ => ?_
    refine runs_finishHeld hrun hin fun hx hset hch => ?_
    obtain ⟨ch,hch',_,hm,hver,_⟩ := hset.row hx.coherent
    cases hch.symm.trans hch'
    exact .succeeded hm hver fun _ => hset.held
  unfold keepGuarded
  rw [hrun.id]
  refine Serves.commit _ hP ?_ ?_ ?_ hend fun _ => failed hP
  · exact fun _ h => ⟨h.1.1,h.2⟩
  · intro w evidence hw he
    cases he
    exact ⟨verdict,⟨⟨acknowledge,by rw [hw.asked,hq]⟩,by rw [hw.object]; exact hv⟩,rfl⟩
  · intro x _ hx h hreq
    obtain ⟨ch,hch,hin⟩ := h.1.settling hx.coherent hreq.2
    refine ⟨ch.core,hin,h.1.1,?_,?_⟩
    · simp [Commit.rows,Rows.credit]
    · simp [Commit.rows,Rows.credit,hch]

end Settler

theorem runs_refuseKeep {code : String} {P : Rows → Prop} (hP : q.Stable i P) :
    Runs q i s P (do commit s.id .refuseKeep; refuse code : Service Response) :=
  serves_commit _ rfl hP nofun (fun _ _ => trivial) (fun _ hx _ => hx) (failed hP)

/-- A request that wants a guarded change kept, whatever it proves and whatever the guard says. -/
theorem runs_guardKeep {verdict : Verdict} {acknowledge : Bool} (hq : q.request = .keep s.id verdict acknowledge) :
    Runs q i s (fun _ => True) (guardKeep s.id verdict acknowledge) := by
  have hP : q.Stable i Rows.Waiting := Rows.Waiting.stable i
  unfold guardKeep
  refine serves_askState rfl (true_stable i) fun run hrun => ?_
  by_cases hg : run.state = .guarded
  rotate_left
  · refine Serves.pre ?_ (P := fun _ => True) fun _ _ => trivial
    refine serves_reads (requireExecutor_reads run) (true_stable i) fun _ => ?_
    rw [if_pos hg]
    exact failed (true_stable i)
  refine Serves.pre ?_ fun hx h => hx.coherent.guarded (h.2.symm.trans hg)
  refine serves_reads (requireExecutor_reads run) hP fun _ => ?_
  rw [if_neg (not_not.mpr hg)]
  refine serves_reads (ask_reads rfl) hP fun guard => ?_
  cases guard with
  | none => exact failed hP
  | some guard =>
  simp only
  split
  · exact failed hP
  refine serves_reads (requireChange_reads _) hP fun change => ?_
  split
  · exact runs_refuseKeep hP
  have hended : ∀ {P : Rows → Prop} {body : Service Ended}, Runs q i s P body → Runs q i s P (do
      let ended ← body
      return Response.ended ended.1 ended.2) := fun h =>
    andThen _ h fun _ => Serves.ret (true_stable i) fun _ _ => trivial
  have hsettle : ∀ report ≠ .armed, Runs q i s (Rows.Reported i report)
      (do let ended ← settleLapsed run change guard report; return Response.ended ended.1 ended.2) :=
    fun report hr => hended (runs_settleLapsed hrun hr change guard)
  unfold askHolder
  split
  · next hv =>
    simp only [decide_eq_true_eq] at hv
    rw [hrun.object] at hv
    refine Serves.disarmGuard (fun report x => report ≠ .armed ∧ x.Waiting ∧ .guardReleased i report ∈ x.journal) hP
      ?_ ?_ fun report => ?_
    · intro w hI hw
      have hguard : ((w.files s.id).guard.map (·.1)).isSome := hw.holds.guard (hI.coherent s.id)
      refine ⟨by simpa using hguard,.inr (.inr ⟨hw.holds.1,verdict,⟨acknowledge,by rw [hw.asked,hq]⟩,?_⟩)⟩
      rw [hw.object]; exact hv
    · exact fun report hr _ h => ⟨hr,h,List.mem_cons_self⟩
    refine Serves.extract (fun _ h => h.1) fun hr => Serves.pre ?_ fun _ h => h.2
    show Runs q i s _ (if report = .armed then _ else _)
    rw [if_neg hr]
    split
    · next hd =>
      cases hd.2
      exact hended (runs_keepGuarded hrun hq hv)
    · exact (hsettle report hr).pre fun _ h => ⟨h.1,.inl h.2⟩
  · next hv =>
    simp only [decide_eq_true_eq] at hv
    refine Serves.guardStatus (Rows.Reported i) hP ?_ fun report => ?_
    · exact fun report _ h => ⟨h,.inr List.mem_cons_self⟩
    show Runs q i s _ (if report = .armed then _ else _)
    split
    · exact (runs_refuseKeep hP).pre fun _ h => h.1
    · next hr =>
      rw [if_neg fun h => hv h.1]
      exact hsettle report hr

end Service
end LocalPlane
