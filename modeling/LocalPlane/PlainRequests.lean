import LocalPlane.Recovering

/-!
# Requests that neither cross nor open

Two kinds of commit begin something that is entered only once: the boundary, and a recovery
attempt. Whatever a request does besides, on whatever answers, is neither.
-/

set_option linter.dupNamespace false

namespace LocalPlane

def Commit.plain : Commit → Bool
  | .cross .. | .openAttempt | .resolve .. => false
  | _ => true

/-- Neither the boundary nor the opening of an attempt. -/
def Op.Plain : Op → Prop
  | .commit _ c => c.plain
  | _ => True

namespace Service

variable {r : RunId} {α : Type} {run : RunRecord}

theorem plain_of_reads {p : Service α} (h : p.All fun op => Serves.Reads op) : p.All Op.Plain :=
  h.mono fun op hop => by cases op with
    | commit r c => cases hop
    | _ => trivial

theorem plain_of_granting {p : Service α} (h : p.All (Op.Granting r)) : p.All Op.Plain :=
  h.mono fun op hop => by
    cases op with
    | commit r' c => cases c <;> first | rfl | cases hop.2
    | _ => trivial

theorem plain_commit {c : Commit} (hc : c.plain) : (commit r c).All Op.Plain :=
  ⟨hc,fun x => by cases x <;> trivial⟩

theorem finish_plain (state : RunState) (result : ChangeResult) (reason : Option RecoveryReason) :
    (finish run state result reason).All Op.Plain := by
  unfold finish
  refine (plain_of_reads (requireChange_reads _)).bind fun settled => (plain_commit rfl).bind fun _ => ?_
  exact ⟨trivial,fun run => (plain_of_reads (requireChange_reads _)).bind fun _ => trivial⟩

theorem recover_plain (reason : RecoveryReason) : (recover run reason).All Op.Plain :=
  (plain_commit rfl).bind fun _ => finish_plain ..

theorem rollBack_plain (request : RequestId) (change : ChangeColumns) (checkpoint : Checkpoint) :
    (rollBack request run change checkpoint).All Op.Plain := by
  unfold rollBack proveRollback
  refine (plain_commit rfl).bind fun _ => ⟨trivial,fun run => ?_⟩
  refine (plain_of_reads (readBack_reads _ _)).bind fun current => ?_
  split
  · exact recover_plain _
  refine (plain_commit rfl).bind fun _ => ⟨trivial,fun report => (plain_commit rfl).bind fun _ => ?_⟩
  refine (plain_of_reads (requireChange_reads _)).bind fun change => ?_
  split
  · exact recover_plain _
  refine (plain_commit rfl).bind fun _ => ⟨trivial,fun run => ?_⟩
  refine (plain_of_reads (readBack_reads _ _)).bind fun read => (plain_commit rfl).bind fun _ => ?_
  refine ⟨trivial,fun run => (plain_of_reads (requireChange_reads _)).bind fun _ => ?_⟩
  split
  · exact finish_plain ..
  · exact recover_plain _

theorem unproven_plain (request : RequestId) (change : ChangeColumns) (checkpoint : Option Checkpoint)
    (read : Option ReadBack) : (unproven request run change checkpoint read).All Op.Plain := by
  unfold unproven
  split
  · exact rollBack_plain ..
  · exact recover_plain _
  · exact recover_plain _

theorem releaseGuard_plain (run : RunRecord) : (releaseGuard run).All Op.Plain := by
  unfold releaseGuard
  split
  · exact ⟨trivial,fun report => plain_commit rfl⟩
  · trivial

theorem released_plain {p : Service Ended} (h : p.All Op.Plain) :
    (p >>= fun ended => do
      releaseGuard ended.1
      return Response.ended ended.1 ended.2 : Service Response).All Op.Plain :=
  h.bind fun _ => (releaseGuard_plain _).bind fun _ => trivial

theorem conclude_plain (request : RequestId) (change : ChangeColumns) (checkpoint : Option Checkpoint)
    (report : MutationReport) : (conclude request run change checkpoint report).All Op.Plain := by
  unfold conclude
  split
  · exact released_plain (finish_plain ..)
  · unfold verify
    simp only [Program.bind_assoc]
    refine (plain_commit rfl).bind fun _ => (plain_of_reads (readBack_reads _ _)).bind fun read => ?_
    refine (plain_commit rfl).bind fun _ => ⟨trivial,fun run => ?_⟩
    refine (plain_of_reads (requireChange_reads _)).bind fun change => ?_
    show Program.All _ (if _ then _ else _)
    split
    · split
      · unfold hold
        refine Program.All.bind ?_ fun _ => trivial
        refine (plain_commit rfl).bind fun _ => ⟨trivial,fun run => ?_⟩
        exact (plain_of_reads (requireChange_reads _)).bind fun _ => trivial
      · exact (finish_plain ..).bind fun _ => trivial
    · exact released_plain (unproven_plain ..)
  · exact released_plain (unproven_plain ..)

theorem arm_plain (run : RunRecord) : (arm run).All Op.Plain := by
  unfold arm
  refine Program.All.bind ?_ fun _ => ⟨trivial,fun checkpoint => by cases checkpoint <;> trivial⟩
  refine ⟨trivial,fun a => ?_⟩
  cases a with
  | error code => exact (plain_commit rfl).bind fun _ => trivial
  | ok correlation =>
    refine ⟨rfl,fun x => ?_⟩
    cases x with
    | ok _ => trivial
    | error e => exact (plain_commit rfl).bind fun _ => by cases e <;> trivial

theorem prepare_plain (run : RunRecord) : (prepare run).All Op.Plain := by
  unfold prepare
  split
  · exact (arm_plain run).bind fun _ => trivial
  · refine Program.All.bind ?_ fun _ => trivial
    unfold correlateTarget
    refine Program.All.bind ⟨trivial,fun a => ?_⟩ fun _ => (plain_commit rfl).bind fun _ => trivial
    cases a with
    | ok _ => trivial
    | error code => exact (plain_commit rfl).bind fun _ => trivial

theorem armGuard_plain (run : RunRecord) (checkpoint : Option Checkpoint) : (armGuard run checkpoint).All Op.Plain := by
  unfold armGuard
  cases checkpoint with
  | none => trivial
  | some checkpoint =>
    refine ⟨trivial,fun confirmation => ?_⟩
    show Program.All _ (if _ then _ else _)
    split
    · trivial
    refine (plain_commit rfl).bind fun _ => ⟨trivial,fun answer => ?_⟩
    cases answer with
    | ok _ => exact plain_commit rfl
    | error code =>
      have habandon : (abandonGuard run).All Op.Plain :=
        ⟨trivial,fun report => (plain_commit rfl).bind fun _ => plain_commit rfl⟩
      exact habandon.bind fun _ => trivial

/-! Keeping and recovering -/

theorem keepGuarded_plain (verdict : Verdict) : (keepGuarded run verdict).All Op.Plain := by
  unfold keepGuarded
  refine (plain_commit rfl).bind fun _ => ⟨trivial,fun run => ?_⟩
  exact (plain_of_reads (requireChange_reads _)).bind fun _ => finish_plain ..

theorem settleLapsed_plain (change : ChangeColumns) (guard : GuardColumns) (report : GuardReport) :
    (settleLapsed run change guard report).All Op.Plain := by
  refine ⟨trivial,fun checkpoint => ?_⟩
  cases checkpoint with
  | none => trivial
  | some _ =>
    cases report with
    | fired outcome =>
      refine (plain_commit rfl).bind fun _ => (plain_commit rfl).bind fun _ => ⟨trivial,fun run => ?_⟩
      refine (plain_of_reads (requireChange_reads _)).bind fun _ => (plain_commit rfl).bind fun _ => ?_
      refine ⟨trivial,fun run => ?_⟩
      show Program.All _ (if _ then _ else _)
      split
      · exact recover_plain _
      refine (plain_commit rfl).bind fun _ => ⟨trivial,fun run => ?_⟩
      refine (plain_of_reads (readBack_reads _ _)).bind fun read => (plain_commit rfl).bind fun _ => ?_
      refine ⟨trivial,fun run => (plain_of_reads (requireChange_reads _)).bind fun _ => ?_⟩
      split
      · exact finish_plain ..
      · exact recover_plain _
    | _ => exact (plain_commit rfl).bind fun _ => ⟨trivial,fun run => recover_plain _⟩

theorem guardKeep_plain (id : RunId) (verdict : Verdict) (acknowledge : Bool) :
    (guardKeep id verdict acknowledge).All Op.Plain := by
  have hrefused (code : String) : (do
      commit id .refuseKeep
      refuse code : Service Response).All Op.Plain := (plain_commit rfl).bind fun _ => trivial
  unfold guardKeep
  refine ⟨trivial,fun run => (plain_of_reads (requireExecutor_reads run)).bind fun _ => ?_⟩
  split
  · trivial
  refine ⟨trivial,fun guard => ?_⟩
  cases guard with
  | none => trivial
  | some guard =>
    show Program.All _ (if _ then _ else _)
    split
    · trivial
    refine (plain_of_reads (requireChange_reads _)).bind fun change => ?_
    split
    · exact hrefused _
    have hask (proved : Bool) : (askHolder id proved).All Op.Plain := by
      unfold askHolder
      split <;> exact ⟨trivial,fun _ => trivial⟩
    refine (hask _).bind fun report => ?_
    split
    · exact hrefused _
    split
    · exact (keepGuarded_plain verdict).bind fun _ => trivial
    · exact (settleLapsed_plain change guard report).bind fun _ => trivial

theorem authoriseRetry_plain (request : RequestId) (id : RunId) (change : ChangeColumns) (read : ReadBack) :
    (authoriseRetry request id change read).All Op.Plain := by
  have hrequest : (recoveryRequest request id change read).All Op.Plain := by
    unfold recoveryRequest
    refine (plain_of_reads (correlate_reads id)).bind fun correlation => ?_
    repeat' split
    all_goals trivial
  unfold authoriseRetry
  refine (plain_of_reads (planNow_reads id)).bind fun _ => hrequest.bind fun prepared => ?_
  exact (plain_commit rfl).bind fun _ => trivial

theorem refusingRetry_plain {body : Service MutationRequest} (h : body.All Op.Plain) : (refusingRetry r body).All Op.Plain := by
  refine h.tryCatch fun e => ?_
  cases e with
  | refused code => exact (plain_commit rfl).bind fun _ => trivial
  | integrity => trivial
  | assertion => trivial

theorem settleInterruptedGuard_plain (entry : RunId × GuardColumns) : (settleInterruptedGuard entry).All Op.Plain := by
  unfold settleInterruptedGuard
  refine ⟨trivial,fun run => ?_⟩
  show Program.All _ (if _ then _ else _)
  split
  · trivial
  refine ⟨trivial,fun report => ?_⟩
  show Program.All _ (if _ then _ else _)
  split
  · trivial
  refine ⟨trivial,fun change => ?_⟩
  cases change with
  | none => exact plain_commit rfl
  | some change =>
    show Program.All _ (if _ then _ else _)
    split
    · exact (settleLapsed_plain change entry.2 report).bind fun _ => trivial
    · exact plain_commit rfl

theorem settleInterruptedChange_plain (entry : RunId × ChangeColumns) : (settleInterruptedChange entry).All Op.Plain := by
  have hend (run : RunRecord) (change : ChangeColumns) : (if outcomeOnRecovery entry.2.dispatchBegan entry.2.mutation = .notWritten then
        (finish run .failed .failed none >>= fun _ => pure ())
      else if outcomeOnRecovery entry.2.dispatchBegan entry.2.mutation = .written ∧
          change.verification = .verified ∧ ¬run.preview.isGuarded then
        (finish run .succeeded .succeeded none >>= fun _ => pure ())
      else
        (recover run (if outcomeOnRecovery entry.2.dispatchBegan entry.2.mutation = .writeUnknown then
          .applyWriteUnknown else .applyInterruptedAfterWrite) >>= fun _ => pure ()) : Service Unit).All Op.Plain := by
    repeat' split
    all_goals first
      | exact (finish_plain ..).bind fun _ => trivial
      | exact (recover_plain _).bind fun _ => trivial
  unfold settleInterruptedChange
  refine ⟨trivial,fun run => ?_⟩
  show Program.All _ (if _ then _ else _)
  split
  · trivial
  show Program.All _ (if _ then _ else _)
  split
  · refine (plain_commit rfl).bind fun _ => ⟨trivial,fun run' => ?_⟩
    exact (plain_of_reads (requireChange_reads _)).bind fun change => hend run' change
  · exact hend run entry.2

theorem startup_plain : startup.All Op.Plain := by
  unfold startup
  refine ⟨trivial,fun guards => (Program.All.forEach settleInterruptedGuard_plain guards).bind fun _ => ?_⟩
  refine ⟨trivial,fun changes => (Program.All.forEach settleInterruptedChange_plain changes).bind fun _ => ?_⟩
  have hattempt (entry : RunId × AttemptColumns) : (settleInterruptedAttempt entry).All Op.Plain := plain_commit rfl
  refine ⟨trivial,fun attempts => (Program.All.forEach hattempt attempts).bind fun _ => ?_⟩
  exact ⟨trivial,fun _ => trivial⟩

/-! Whole requests -/

theorem gates_plain (run : RunRecord) : (gates run).All Op.Plain := by
  unfold gates
  refine (plain_of_reads (requireTarget_reads _)).bind fun _ => ?_
  refine (plain_of_reads (requireExecutablePreview_reads _)).bind fun _ => ?_
  refine (plain_of_reads (planNow_reads _)).bind fun _ => ?_
  have hconsume (run : RunRecord) : (do
      commit run.id (.consumeConfirmation run.state)
      ask (.run run.id) : Service RunRecord).All Op.Plain := (plain_commit rfl).bind fun _ => ⟨trivial,fun _ => trivial⟩
  unfold consumeConfirmation
  split
  · exact (plain_commit rfl).bind fun _ => ⟨trivial,hconsume⟩
  · exact hconsume run

theorem apply_once (request : RequestId) (id : RunId) : (apply request id).Once Op.Plain := by
  have hrefusing (run : RunRecord) : (refusingApply id (gates run)).All Op.Plain := by
    refine (gates_plain run).tryCatch fun e => ?_
    cases e with
    | refused code => exact (plain_commit rfl).bind fun _ => trivial
    | integrity => trivial
    | assertion => trivial
  have hcross (run : RunRecord) (checkpoint : Option Checkpoint) (correlation : Correlation) : (do
      let change ← cross run correlation
      let run ← ask (.run id)
      let report ← dispatch run change
      let change ← settle run report
      let run ← ask (.run id)
      conclude request run change checkpoint report : Service Response).Once Op.Plain := by
    have hone : (cross run correlation).Once Op.Plain := .inr fun a => by
      cases a with
      | ok _ => exact plain_of_reads (requireChange_reads _)
      | error e => trivial
    refine hone.bind fun change => ⟨trivial,fun run => ?_⟩
    refine ((plain_commit rfl).bind fun _ => ⟨trivial,fun _ => trivial⟩ : (dispatch run change).All Op.Plain).bind fun report => ?_
    refine ((plain_commit rfl).bind fun _ => plain_of_reads (requireChange_reads _) : (settle run report).All Op.Plain).bind fun change => ?_
    exact ⟨trivial,fun run => conclude_plain ..⟩
  unfold apply
  refine (plain_of_reads (ask_reads rfl)).bind_once fun run => ?_
  refine (plain_of_reads (requireExecutor_reads run)).bind_once fun _ => ?_
  have hacquire : (acquire id).All Op.Plain := ⟨trivial,fun _ => trivial⟩
  refine hacquire.bind_once fun run => (hrefusing run).bind_once fun run => (prepare_plain run).bind_once fun prepared => ?_
  show Program.Once _ (if _ then _ else _)
  split
  · exact (armGuard_plain run prepared.1).bind_once fun _ => hcross run prepared.1 prepared.2
  · exact hcross run prepared.1 prepared.2

theorem recoveryRetry_once (request : RequestId) (id : RunId) : (recoveryRetry request id).Once Op.Plain := by
  unfold recoveryRetry
  refine (plain_of_reads (findChange_reads id)).bind_once fun change => ?_
  refine (plain_of_reads (ask_reads rfl)).bind_once fun run => ?_
  refine (plain_of_reads (requireExecutor_reads run)).bind_once fun _ => ?_
  refine (plain_of_reads (openHold_reads id)).bind_once fun _ => ?_
  refine (plain_of_reads (requireTarget_reads id)).bind_once fun _ => ?_
  refine (plain_of_reads (requireExecutablePreview_reads run)).bind_once fun _ => ?_
  refine (plain_of_reads (planNow_reads id)).bind_once fun _ => ?_
  have hopen : (openRecoveryAttempt id).Once Op.Plain := .inr fun a => by
    cases a with
    | ok _ => trivial
    | error e => cases e <;> trivial
  refine hopen.bind fun _ => (plain_of_reads (readBack_reads run _)).bind fun read => (plain_commit rfl).bind fun _ => ?_
  have hcomplete (outcome : RecoveryAttemptOutcome) : (completeRecovery id outcome).All Op.Plain :=
    (plain_commit rfl).bind fun _ => trivial
  have hsettle (outcome : RecoveryAttemptOutcome) : (settleRetry id outcome).All Op.Plain :=
    (plain_commit rfl).bind fun _ => trivial
  split
  · exact hcomplete _
  refine (plain_of_reads (requireTarget_reads id)).bind fun _ => ?_
  refine (refusingRetry_plain (authoriseRetry_plain request id change read)).bind fun m => ?_
  refine ⟨trivial,fun report => (plain_commit rfl).bind fun _ => ?_⟩
  split
  · exact hsettle _
  refine (plain_of_reads (readBack_reads run _)).bind fun verified => (plain_commit rfl).bind fun _ => ?_
  show Program.All _ (if _ then _ else _)
  split
  · exact hcomplete _
  · exact hsettle _

theorem recoveryResolve_once (id : RunId) (reason : Option RecoveryReason) (acknowledge : Bool) (statement objectName : String)
    (note : Option String) : (recoveryResolve id reason acknowledge statement objectName note).Once Op.Plain := by
  have hrest (read : ReadBack) : (do
      commit id (.resolve read statement note)
      return Response.done : Service Response).Once Op.Plain := by
    have hone : (commit id (.resolve read statement note)).Once Op.Plain := .inr fun _ => trivial
    exact hone.bind fun _ => trivial
  unfold recoveryResolve
  refine (plain_of_reads (findChange_reads id)).bind_once fun change => ?_
  refine (plain_of_reads (ask_reads rfl)).bind_once fun run => ?_
  refine (plain_of_reads (openHold_reads id)).bind_once fun _ => ?_
  repeat' split
  all_goals first
    | trivial
    | exact (plain_of_reads (readBack_reads _ _)).bind_once hrest
    | exact hrest _

/-- A request crosses or opens at most once, whatever it is told. -/
theorem program_once (request : RequestId) (q : Request) : (program request q).Once Op.Plain := by
  cases q with
  | startup => exact startup_plain.once
  | confirm run digest acknowledge typed displayName =>
    exact (plain_of_granting (confirm_granting run digest acknowledge typed displayName)).once
  | grantOverride run digest acknowledge => exact (plain_of_granting (grantOverride_granting run digest acknowledge)).once
  | cancel run => exact (plain_of_granting (cancel_granting run)).once
  | apply run => exact apply_once request run
  | keep run verdict acknowledge => exact (guardKeep_plain run verdict acknowledge).once
  | recoveryConfirm run reason acknowledge => exact (plain_of_granting (recoveryConfirm_granting run reason acknowledge)).once
  | recoveryRetry run => exact recoveryRetry_once request run
  | recoveryResolve run reason acknowledge statement objectName note =>
    exact recoveryResolve_once run reason acknowledge statement objectName note

end Service
end LocalPlane
