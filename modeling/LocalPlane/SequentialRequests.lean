import LocalPlane.Sequential
import LocalPlane.Transitions

/-!
# Requests that do not overlap

What a request of the engine sees of the Runs when no other request moves: each Run as
its last commit left it. Every commit such a request makes names the state the Run is in.
-/

set_option linter.dupNamespace false

namespace LocalPlane

open Interleaved (View)

namespace Commit

/-- The state a commit puts into the row, for a Run of this plan. -/
def leads (p : Preview) : Commit → Option RunState
  | .cancel => some .cancelled
  | .awaitConfirmation _ => some .awaitingConfirmation
  | .consumeConfirmation _ => if p.armsRecovery then some .arming else none
  | .failCorrelation _ | .failArming | .failGuardArming _ => some .failed
  | .cross .. => some .applying
  | .startVerification => some .verifying
  | .hold _ => some .guarded
  | .startRollback _ | .startLapse _ => some .rollingBack
  | .startRollbackVerification _ => some .rollbackVerifying
  | .finish _ _ state _ _ => some state
  | _ => none

theorem enters_eq (x : Rows) (c : Commit) : c.enters x = c.leads x.preview := by cases c <;> rfl

/-- The state a commit tells the transcript it leaves, where its caller supplies it. -/
def leaves : Commit → Option RunState
  | .awaitConfirmation seen | .consumeConfirmation seen | .failCorrelation seen | .failGuardArming seen
  | .cross seen _ | .hold seen | .startRollback seen | .startRollbackVerification seen | .startLapse seen
  | .finish seen .. => some seen
  | .failArming => some .arming
  | .startVerification => some .applying
  | _ => none

def Fits (c : Commit) (state : RunState) : Prop := ∀ seen, c.leaves = some seen → seen = state

end Commit

/-- An operation that names no state the Run might have left. -/
def Op.Stateless : Op → Prop
  | .commit _ c => c.leaves = none
  | _ => True

abbrev Standings := RunId → RunRecord

namespace Standings

/-- What a read of the Run returns. -/
def read (σ : Standings) (run : RunId) : RunRecord := { σ run with id := run }

def enter (σ : Standings) (run : RunId) (c : Commit) : Standings :=
  Function.update σ run { σ run with state := (c.leads (σ run).preview).getD (σ run).state }

end Standings

/-- Reads see the last commit; a commit must name the state it leaves. -/
def standing : View signature where
  State := Standings
  fits
    | .commit run c,σ => c.Fits (σ run).state
    | _,_ => True
  answers
    | .run run,σ,answer => answer = σ.read run
    | .acquire run,σ,answer => ∀ record, answer = .ok record → record = σ.read run
    | _,_,_ => True
  after
    | .commit run c,σ,.ok _ => σ.enter run c
    | _,σ,_ => σ

namespace Service

variable {σ : Standings} {run : RunRecord} {r : RunId} {α : Type}

/-- The record a request holds is the Run as it stands. -/
def Current (σ : Standings) (run : RunRecord) : Prop := run = σ.read run.id

theorem Current.state (h : Current σ run) : run.state = (σ run.id).state := by
  have hs := congrArg RunRecord.state (show run = σ.read run.id from h)
  exact hs

/-! Single operations -/

theorem enter_quiet {c : Commit} (h : ∀ p, c.leads p = none) (σ : Standings) (r : RunId) : σ.enter r c = σ := by
  unfold Standings.enter
  rw [h]
  exact Function.update_eq_self r σ

theorem enter_state {c : Commit} {state : RunState} (h : c.leads (σ r).preview = some state) :
    ((σ.enter r c) r).state = state := by
  simp [Standings.enter,h]

/-- An operation that is no commit leaves every Run as it stands. -/
theorem leads_ask (op : Op) (hf : standing.fits op σ) (h : ∀ a, standing.after op σ a = σ) :
    standing.Leads (ask op) σ fun _ s => s = σ :=
  ⟨hf,fun a _ => View.Leads.ret (h a)⟩

theorem leads_run (r : RunId) : standing.Leads (ask (.run r)) σ fun a s => a = σ.read r ∧ s = σ :=
  ⟨trivial,fun _ ha => View.Leads.ret ⟨ha,rfl⟩⟩

theorem leads_commit {c : Commit} (hf : c.Fits (σ r).state) :
    standing.Leads (commit r c) σ fun _ s => s = σ.enter r c := by
  refine ⟨hf,fun a _ b hb => ?_⟩
  subst hb
  rfl

/-- A commit that writes no state and names none. -/
theorem leads_note {c : Commit} (hl : ∀ p, c.leads p = none) (hf : c.leaves = none) :
    standing.Leads (commit r c) σ fun _ s => s = σ := by
  have hfits : c.Fits (σ r).state := fun seen hs => by rw [hf] at hs; cases hs
  exact (leads_commit hfits).mono fun _ s hs => hs.trans (enter_quiet hl σ r)

theorem leads_refuse {code : String} {R : α → Standings → Prop} : standing.Leads (refuse code) σ R := View.Leads.error

theorem leads_requireChange (r : RunId) : standing.Leads (requireChange r) σ fun _ s => s = σ := by
  refine ⟨trivial,fun a _ => ?_⟩
  cases a with
  | none => exact View.Leads.error
  | some change => exact View.Leads.ret rfl

theorem leads_requireTarget (r : RunId) : standing.Leads (requireTarget r) σ fun _ s => s = σ := by
  refine (leads_ask (.target r) trivial fun _ => rfl).bind fun found s hs => ?_
  subst hs
  cases found with
  | true => exact View.Leads.ret rfl
  | false => exact leads_refuse

theorem leads_planNow (r : RunId) : standing.Leads (planNow r) σ fun _ s => s = σ := by
  refine (leads_ask (.replan r) trivial fun _ => rfl).bind fun refusal s hs => ?_
  subst hs
  cases refusal with
  | none => exact View.Leads.ret rfl
  | some code => exact leads_refuse

theorem leads_requireExecutor (run : RunRecord) : standing.Leads (requireExecutor run) σ fun _ s => s = σ := by
  unfold requireExecutor
  split
  · exact View.Leads.ret rfl
  · exact leads_refuse

theorem leads_requireExecutable (run : RunRecord) :
    standing.Leads (requireExecutablePreview run) σ fun _ s => s = σ := by
  unfold requireExecutablePreview
  split
  · exact View.Leads.ret rfl
  · exact leads_refuse

theorem leads_readBack (run : RunRecord) (expectation : Expectation) :
    standing.Leads (readBack run expectation) σ fun _ s => s = σ := by
  refine (leads_ask (.observe run.id) trivial fun _ => rfl).bind fun attempt s hs => ?_
  exact View.Leads.ret hs

/-! How the pieces of a request are put together -/

/-- What leaves every Run as it stands can be followed by anything. -/
theorem leads_after {β : Type} {p : Service α} {f : α → Service β} {R : β → Standings → Prop}
    (hp : standing.Leads p σ fun _ s => s = σ) (hf : ∀ a, standing.Leads (f a) σ R) : standing.Leads (p >>= f) σ R :=
  hp.bind fun a _ hs => hs ▸ hf a

theorem leads_aside {β : Type} {op : Op} {f : op.Ret → Service β} {R : β → Standings → Prop} (hf : standing.fits op σ)
    (h : ∀ a, standing.after op σ a = σ) (hn : ∀ a, standing.Leads (f a) σ R) : standing.Leads (ask op >>= f) σ R :=
  leads_after (leads_ask op hf h) hn

theorem leads_noted {β : Type} {c : Commit} {f : Unit → Service β} {R : β → Standings → Prop}
    (hl : ∀ p, c.leads p = none) (hf : c.leaves = none) (hn : ∀ a, standing.Leads (f a) σ R) :
    standing.Leads (commit r c >>= f) σ R := leads_after (leads_note hl hf) hn

/-- A Run that is read again is had as it stands. -/
theorem leads_fresh {β : Type} {f : RunRecord → Service β} {R : β → Standings → Prop}
    (h : ∀ run : RunRecord, run.id = r → Current σ run → standing.Leads (f run) σ R) :
    standing.Leads (ask (.run r) >>= f) σ R :=
  (leads_run r).bind fun run _ hrun => by
    obtain ⟨rfl,rfl⟩ := hrun
    exact h _ rfl rfl

/-- A commit that names the state it leaves brings the Run to the state it writes. -/
theorem leads_moved {β : Type} {c : Commit} {state : RunState} {f : Unit → Service β} {R : β → Standings → Prop}
    (hf : c.Fits (σ r).state) (hl : c.leads (σ r).preview = some state)
    (hn : ∀ s : Standings, (s r).state = state → (s r).preview = (σ r).preview → standing.Leads (f ()) s R) :
    standing.Leads (commit r c >>= f) σ R :=
  (leads_commit hf).bind fun _ s hs => by
    subst hs
    exact hn _ (enter_state hl) (by simp [Standings.enter])

theorem fits_of_leaves {c : Commit} {seen state : RunState} (hc : c.leaves = some seen) (h : seen = state) : c.Fits state :=
  fun _ ho => (Option.some.inj (hc.symm.trans ho)).symm.trans h

/-! The boundary and before it -/

theorem leads_consume {run : RunRecord} (hrun : Current σ run) :
    standing.Leads (do
      commit run.id (.consumeConfirmation run.state)
      ask (.run run.id)) σ fun run' s => Current s run' ∧ run'.id = run.id ∧
        (run'.preview.armsRecovery → run'.state = .arming) := by
  have hfits : (Commit.consumeConfirmation run.state).Fits (σ run.id).state := fits_of_leaves rfl hrun.state
  by_cases ha : (σ run.id).preview.armsRecovery
  · refine leads_moved hfits (show _ = some RunState.arming from if_pos ha) fun s hs hp => (leads_run _).mono fun run' s' h => ?_
    obtain ⟨rfl,rfl⟩ := h
    exact ⟨rfl,rfl,fun _ => hs⟩
  · have hnone : σ.enter run.id (.consumeConfirmation run.state) = σ := by
      unfold Standings.enter
      rw [show (Commit.consumeConfirmation run.state).leads (σ run.id).preview = none from if_neg ha]
      exact Function.update_eq_self _ σ
    refine leads_after ((leads_commit hfits).mono fun _ s hs => hs.trans hnone) fun _ => ?_
    refine (leads_run _).mono fun run' s' h => ?_
    obtain ⟨rfl,rfl⟩ := h
    exact ⟨rfl,rfl,fun h => absurd h ha⟩

/-- What an apply has once its gates are behind it. -/
abbrev Admits (r : RunId) (run : RunRecord) (s : Standings) : Prop :=
  Current s run ∧ run.id = r ∧ (run.preview.armsRecovery → run.state = .arming)

theorem leads_gates {run : RunRecord} (hrun : Current σ run) : standing.Leads (gates run) σ (Admits run.id) := by
  unfold gates
  refine leads_after (leads_requireTarget _) fun _ => ?_
  refine leads_after (leads_requireExecutable _) fun _ => ?_
  refine leads_after (leads_planNow _) fun _ => ?_
  unfold consumeConfirmation
  split
  · refine leads_moved (fits_of_leaves rfl hrun.state) rfl fun s _ _ => leads_fresh fun run' hid hrun' => ?_
    exact hid ▸ leads_consume hrun'
  · exact leads_consume hrun

theorem leads_refusingApply {body : Service RunRecord} {R : RunRecord → Standings → Prop} (h : standing.Leads body σ R) :
    standing.Leads (refusingApply r body) σ R := by
  refine View.Leads.handle h fun e s => ?_
  cases e with
  | refused code => exact leads_noted (fun _ => rfl) rfl fun _ => leads_refuse
  | integrity => exact View.Leads.error
  | assertion => exact View.Leads.error

/-- Correlating, however it ends, leaves every Run as it stands. -/
theorem safe_correlate (r : RunId) : standing.Safe (correlate r) (fun _ s => s = σ) σ :=
  ⟨trivial,fun a _ => by cases a <;> exact rfl⟩

theorem leads_correlateTarget {run : RunRecord} (hrun : Current σ run) :
    standing.Leads (correlateTarget run) σ fun _ s => s = σ := by
  have hbody : standing.Leads (tryCatch (correlate run.id) fun e => do
      commit run.id (.failCorrelation run.state)
      throw e) σ fun _ s => s = σ := by
    refine View.Safe.tryCatch (View.Safe.mono (fun x s hs => ?_) (safe_correlate run.id))
    subst hs
    cases x with
    | ok correlation => exact fun _ _ => rfl
    | error e => exact leads_moved (fits_of_leaves rfl hrun.state) rfl fun _ _ _ => View.Leads.error
  exact leads_after hbody fun correlation => leads_noted (fun _ => rfl) rfl fun _ => View.Leads.ret rfl

theorem leads_arm {run : RunRecord} (hrun : Current σ run) (ha : run.state = .arming) :
    standing.Leads (arm run) σ fun _ s => s = σ := by
  have hbody : standing.Safe (do
      let correlation ← correlate run.id
      commit run.id (.writeCheckpoint correlation)) (fun _ s => s = σ) σ := by
    refine View.Safe.bind (View.Safe.mono (fun x s hs => ?_) (safe_correlate run.id))
    subst hs
    cases x with
    | error e => rfl
    | ok correlation =>
      refine ⟨fun _ h => absurd h (by simp [Commit.leaves]),fun a _ => ?_⟩
      cases a with
      | error e => rfl
      | ok _ => exact enter_quiet (fun _ => rfl) _ _
  refine leads_after (View.Safe.tryCatch (View.Safe.mono (fun x s hs => ?_) hbody)) fun _ => ?_
  · subst hs
    cases x with
    | ok _ => exact fun _ _ => rfl
    | error e =>
      refine leads_moved (fits_of_leaves rfl (ha.symm.trans hrun.state)) rfl fun _ _ _ => ?_
      cases e <;> exact leads_refuse
  · refine leads_aside trivial (fun _ => rfl) fun checkpoint => ?_
    cases checkpoint with
    | some checkpoint => exact View.Leads.ret rfl
    | none => exact View.Leads.error

theorem leads_prepare {run : RunRecord} (hrun : Current σ run) (ha : run.preview.armsRecovery → run.state = .arming) :
    standing.Leads (prepare run) σ fun _ s => s = σ := by
  unfold prepare
  split
  · next h => exact leads_after (leads_arm hrun (ha h)) fun _ => View.Leads.ret rfl
  · exact leads_after (leads_correlateTarget hrun) fun _ => View.Leads.ret rfl

theorem leads_abandonGuard {run : RunRecord} (hrun : Current σ run) :
    standing.Leads (abandonGuard run) σ fun _ _ => True := by
  unfold abandonGuard
  refine leads_aside trivial (fun _ => rfl) fun report => ?_
  refine leads_noted (fun _ => rfl) rfl fun _ => ?_
  exact (leads_commit (fits_of_leaves rfl hrun.state)).mono fun _ _ _ => trivial

theorem leads_armGuard {run : RunRecord} (hrun : Current σ run) (checkpoint : Option Checkpoint) :
    standing.Leads (armGuard run checkpoint) σ fun _ s => s = σ := by
  unfold armGuard
  cases checkpoint with
  | none => exact View.Leads.error
  | some checkpoint =>
    refine leads_aside trivial (fun _ => rfl) fun confirmation => ?_
    split
    · exact leads_refuse
    · refine leads_noted (fun _ => rfl) rfl fun _ => leads_aside trivial (fun _ => rfl) fun answer => ?_
      cases answer with
      | error code => exact (leads_abandonGuard hrun).bind fun _ _ _ => leads_refuse
      | ok _ => exact leads_note (fun _ => rfl) rfl

theorem leads_cross {run : RunRecord} (hrun : Current σ run) (correlation : Correlation) :
    standing.Leads (cross run correlation) σ fun _ s => (s run.id).state = .applying :=
  leads_moved (fits_of_leaves rfl hrun.state) rfl fun _ hs _ =>
    (leads_requireChange _).mono fun _ _ h => h ▸ hs

theorem leads_dispatch (run : RunRecord) (change : ChangeColumns) :
    standing.Leads (dispatch run change) σ fun _ s => s = σ :=
  leads_noted (fun _ => rfl) rfl fun _ => leads_ask _ trivial fun _ => rfl

theorem leads_settle (run : RunRecord) (report : MutationReport) :
    standing.Leads (settle run report) σ fun _ s => s = σ :=
  leads_noted (fun _ => rfl) rfl fun _ => leads_requireChange _

/-! Past the boundary -/

theorem leads_finish {run : RunRecord} (hrun : Current σ run) (state : RunState) (result : ChangeResult)
    (reason : Option RecoveryReason) : standing.Leads (finish run state result reason) σ fun _ _ => True := by
  unfold finish
  refine leads_after (leads_requireChange _) fun settled => ?_
  refine leads_moved (fits_of_leaves rfl hrun.state) rfl fun _ _ _ => leads_fresh fun _ _ _ => ?_
  exact leads_after (leads_requireChange _) fun _ => View.Leads.ret trivial

theorem leads_recover {run : RunRecord} (hrun : Current σ run) (reason : RecoveryReason) :
    standing.Leads (recover run reason) σ fun _ _ => True :=
  leads_noted (fun _ => rfl) rfl fun _ => leads_finish hrun ..

theorem leads_verify {run : RunRecord} (hrun : (σ run.id).state = .applying) (change : ChangeColumns) :
    standing.Leads (verify run change) σ fun result s => Current s result.1 := by
  unfold verify
  refine leads_moved (fits_of_leaves rfl hrun.symm) rfl fun s _ _ => ?_
  refine leads_after (leads_readBack _ _) fun read => leads_noted (fun _ => rfl) rfl fun _ => ?_
  refine leads_fresh fun run' _ hrun' => leads_after (leads_requireChange _) fun _ => View.Leads.ret hrun'

/-- The reading that ends a restoration, however the restoration came about. -/
theorem leads_restored {run : RunRecord} (hrun : Current σ run) (change : ChangeColumns) (report : MutationReport) :
    standing.Leads (do
      commit run.id (.startRollbackVerification run.state)
      let run ← ask (.run run.id)
      let read ← readBack run (restoredExpectation change)
      commit run.id (.recordRollbackVerification read)
      let run ← ask (.run run.id)
      let _ ← requireChange run.id
      if read.outcome.proved then finish run .rolledBack .rolledBack none
      else recover run (recoveryReason read.outcome report)) σ fun _ _ => True := by
  refine leads_moved (fits_of_leaves rfl hrun.state) rfl fun s _ _ => leads_fresh fun run' _ hrun' => ?_
  refine leads_after (leads_readBack _ _) fun read => leads_noted (fun _ => rfl) rfl fun _ => ?_
  refine leads_fresh fun run'' _ hrun'' => leads_after (leads_requireChange _) fun _ => ?_
  split
  · exact leads_finish hrun'' ..
  · exact leads_recover hrun'' _

theorem leads_rollBack (request : RequestId) {run : RunRecord} (hrun : Current σ run) (change : ChangeColumns)
    (checkpoint : Checkpoint) : standing.Leads (rollBack request run change checkpoint) σ fun _ _ => True := by
  unfold rollBack
  refine leads_moved (fits_of_leaves rfl hrun.state) rfl fun s hs _ => leads_fresh fun run' hid hrun' => ?_
  have hback : run'.state = .rollingBack := hrun'.state.trans (hid ▸ hs)
  refine leads_after (leads_readBack _ _) fun current => ?_
  split
  · exact leads_recover hrun' _
  · refine leads_noted (fun _ => rfl) rfl fun _ => leads_aside trivial (fun _ => rfl) fun report => ?_
    refine leads_noted (fun _ => rfl) rfl fun _ => leads_after (leads_requireChange _) fun change' => ?_
    split
    · exact leads_recover hrun' _
    · unfold proveRollback
      rw [← hback]
      exact leads_restored hrun' change' report

theorem leads_unproven (request : RequestId) {run : RunRecord} (hrun : Current σ run) (change : ChangeColumns)
    (checkpoint : Option Checkpoint) (read : Option ReadBack) :
    standing.Leads (unproven request run change checkpoint read) σ fun _ _ => True := by
  cases checkpoint with
  | some checkpoint => exact leads_rollBack request hrun change checkpoint
  | none => cases read <;> exact leads_recover hrun _

theorem leads_hold {run : RunRecord} (hrun : Current σ run) : standing.Leads (hold run) σ fun _ _ => True :=
  leads_moved (fits_of_leaves rfl hrun.state) rfl fun _ _ _ => leads_fresh fun _ _ _ =>
    leads_after (leads_requireChange _) fun _ => View.Leads.ret trivial

theorem leads_releaseGuard (run : RunRecord) : standing.Leads (releaseGuard run) σ fun _ s => s = σ := by
  unfold releaseGuard
  split
  · exact leads_aside trivial (fun _ => rfl) fun report => leads_note (fun _ => rfl) rfl
  · exact View.Leads.ret rfl

/-- An ending whose guard is released after it. -/
theorem leads_released {p : Service Ended} (h : standing.Leads p σ fun _ _ => True) :
    standing.Leads (do
      let ended ← p
      releaseGuard ended.1
      return Response.ended ended.1 ended.2) σ fun _ _ => True :=
  h.bind fun _ _ _ => leads_after (leads_releaseGuard _) fun _ => View.Leads.ret trivial

theorem leads_conclude (request : RequestId) {run : RunRecord} (hrun : Current σ run) (ha : run.state = .applying)
    (change : ChangeColumns) (checkpoint : Option Checkpoint) (report : MutationReport) :
    standing.Leads (conclude request run change checkpoint report) σ fun _ _ => True := by
  unfold conclude
  split
  · exact leads_released (leads_finish hrun ..)
  · refine (leads_verify (hrun.state.symm.trans ha) change).bind fun result s hs => ?_
    obtain ⟨run',change',read⟩ := result
    have hrun' : Current s run' := hs
    show standing.Leads (if _ then _ else _) s _
    split
    · split
      · exact (leads_hold hrun').bind fun _ _ _ => View.Leads.ret trivial
      · exact (leads_finish hrun' ..).bind fun _ _ _ => View.Leads.ret trivial
    · exact leads_released (leads_unproven request hrun' change' checkpoint _)
  · exact leads_released (leads_unproven request hrun change checkpoint _)

theorem leads_apply (request : RequestId) (id : RunId) : standing.Leads (apply request id) σ fun _ _ => True := by
  unfold apply
  refine leads_fresh fun run _ _ => leads_after (leads_requireExecutor _) fun _ => ?_
  have hacquire : standing.Leads (acquire id) σ fun run s => s = σ ∧ run.id = id ∧ Current σ run := by
    refine ⟨trivial,fun a ha run hrun => ?_⟩
    subst hrun
    obtain rfl := ha run rfl
    exact ⟨rfl,rfl,rfl⟩
  refine hacquire.bind fun run s hs => ?_
  obtain ⟨rfl,hid,hrun⟩ := hs
  refine (leads_refusingApply (leads_gates hrun)).bind fun run' s hadmits => ?_
  obtain ⟨hrun',hid',ha⟩ := hadmits
  refine leads_after (leads_prepare hrun' ha) fun prepared => ?_
  obtain ⟨checkpoint,correlation⟩ := prepared
  have hrest : standing.Leads (do
      let change ← cross run' correlation
      let run ← ask (.run id)
      let report ← dispatch run change
      let change ← settle run report
      let run ← ask (.run id)
      conclude request run change checkpoint report) s fun _ _ => True := by
    refine (leads_cross hrun' correlation).bind fun change s' hs' => leads_fresh fun run'' hid'' hrun'' => ?_
    refine leads_after (leads_dispatch _ _) fun report => leads_after (leads_settle _ _) fun change' => ?_
    refine leads_fresh fun run₃ hid₃ hrun₃ => ?_
    refine leads_conclude request hrun₃ (hrun₃.state.trans ?_) change' checkpoint report
    rw [hid₃,← hid,← hid']
    exact hs'
  show standing.Leads (if _ then _ else _) s _
  split
  · exact leads_after (leads_armGuard hrun' checkpoint) fun _ => hrest
  · exact hrest

/-! Keeping and lapsing -/

theorem leads_keepGuarded {run : RunRecord} (verdict : Verdict) :
    standing.Leads (keepGuarded run verdict) σ fun _ _ => True :=
  leads_noted (fun _ => rfl) rfl fun _ => leads_fresh fun _ _ hrun =>
    leads_after (leads_requireChange _) fun _ => leads_finish hrun ..

theorem leads_settleLapsed {run : RunRecord} (hrun : Current σ run) (change : ChangeColumns) (guard : GuardColumns)
    (report : GuardReport) : standing.Leads (settleLapsed run change guard report) σ fun _ _ => True := by
  unfold settleLapsed
  refine leads_aside trivial (fun _ => rfl) fun checkpoint => ?_
  cases checkpoint with
  | none => exact View.Leads.error
  | some checkpoint =>
    have hsettled : ∀ {s : Standings} {run' : RunRecord} {α : Type} {f : RunRecord → Service α} {R : α → Standings → Prop},
        (∀ run : RunRecord, Current s run → standing.Leads (f run) s R) →
        standing.Leads (commit run'.id (.settleGuard report) >>= fun _ => ask (.run run'.id) >>= f) s R := fun h =>
      leads_noted (fun _ => rfl) rfl fun _ => leads_fresh fun run _ hrun => h run hrun
    cases report with
    | fired outcome =>
      refine leads_moved (fits_of_leaves rfl hrun.state) rfl fun s _ _ => ?_
      refine leads_noted (fun _ => rfl) rfl fun _ => leads_fresh fun run' _ _ => ?_
      refine leads_after (leads_requireChange _) fun _ => hsettled fun run'' hrun'' => ?_
      show standing.Leads (if _ then _ else _) s _
      split
      · exact leads_recover hrun'' _
      · exact leads_restored hrun'' change ⟨outcome,true⟩
    | lost => exact hsettled fun run' hrun' => leads_recover hrun' _
    | disarmed => exact hsettled fun run' hrun' => leads_recover hrun' _
    | armed => exact hsettled fun run' hrun' => leads_recover hrun' _
    | unreachable => exact hsettled fun run' hrun' => leads_recover hrun' _

theorem leads_askHolder (r : RunId) (proved : Bool) : standing.Leads (askHolder r proved) σ fun _ s => s = σ := by
  unfold askHolder
  split <;> exact leads_ask _ trivial fun _ => rfl

theorem leads_guardKeep (id : RunId) (verdict : Verdict) (acknowledge : Bool) :
    standing.Leads (guardKeep id verdict acknowledge) σ fun _ _ => True := by
  have hrefused (code : String) : standing.Leads (commit id .refuseKeep >>= fun _ => refuse code) σ
      fun (_ : Response) _ => True := leads_noted (fun _ => rfl) rfl fun _ => leads_refuse
  unfold guardKeep
  refine leads_fresh fun run _ hrun => leads_after (leads_requireExecutor _) fun _ => ?_
  split
  · exact leads_refuse
  refine leads_aside trivial (fun _ => rfl) fun guard => ?_
  cases guard with
  | none => exact leads_refuse
  | some guard =>
    show standing.Leads (if _ then _ else _) σ _
    split
    · exact leads_refuse
    refine leads_after (leads_requireChange _) fun change => ?_
    split
    · exact hrefused _
    refine leads_after (leads_askHolder _ _) fun report => ?_
    split
    · exact hrefused _
    split
    · exact (leads_keepGuarded verdict).bind fun _ _ _ => View.Leads.ret trivial
    · exact (leads_settleLapsed hrun change guard report).bind fun _ _ _ => View.Leads.ret trivial

/-! Requests that write no state -/

theorem leads_stateless {p : Service α} (hp : p.All Op.Stateless) : standing.Leads p σ fun _ _ => True := by
  induction p generalizing σ with
  | ret x => exact fun _ _ => trivial
  | act op next ih =>
    refine ⟨?_,fun a _ => ih a (hp.2 a)⟩
    cases op with
    | commit r c => exact fun seen hs => absurd (hp.1.symm.trans hs) (by simp)
    | _ => trivial

theorem stateless_of_harmless {p : Service α} (hp : p.All (Op.Harmless r)) : p.All Op.Stateless :=
  hp.mono fun op hop => by
    cases op with
    | commit r' c => obtain ⟨_,hc⟩ := hop; cases c <;> first | rfl | cases hc
    | _ => trivial

theorem stateless_of_reads {p : Service α} (hp : p.All fun op => Serves.Reads op) : p.All Op.Stateless :=
  stateless_of_harmless (harmless_of_reads (r := 0) hp)

theorem commit_stateless {c : Commit} (hc : c.leaves = none) : (commit r c).All Op.Stateless :=
  ⟨hc,fun x => by cases x <;> trivial⟩

theorem openRecoveryAttempt_stateless (r : RunId) : (openRecoveryAttempt r).All Op.Stateless := by
  refine ⟨rfl,fun a => ?_⟩
  cases a with
  | ok _ => trivial
  | error e => cases e <;> trivial

theorem refusingRetry_stateless {body : Service MutationRequest} (h : body.All Op.Stateless) :
    (refusingRetry r body).All Op.Stateless := by
  refine h.tryCatch fun e => ?_
  cases e with
  | refused code => exact (commit_stateless rfl).bind fun _ => trivial
  | integrity => trivial
  | assertion => trivial

theorem authoriseRetry_stateless (request : RequestId) (id : RunId) (change : ChangeColumns) (read : ReadBack) :
    (authoriseRetry request id change read).All Op.Stateless := by
  have hrequest : (recoveryRequest request id change read).All Op.Stateless := by
    unfold recoveryRequest
    refine (stateless_of_reads (correlate_reads id)).bind fun correlation => ?_
    repeat' split
    all_goals trivial
  unfold authoriseRetry
  refine (stateless_of_reads (planNow_reads id)).bind fun _ => hrequest.bind fun prepared => ?_
  exact (commit_stateless rfl).bind fun _ => trivial

theorem recoveryRetry_stateless (request : RequestId) (id : RunId) :
    (recoveryRetry request id).All Op.Stateless := by
  unfold recoveryRetry
  refine (stateless_of_reads (findChange_reads id)).bind fun change => ?_
  refine (stateless_of_reads (ask_reads rfl)).bind fun run => ?_
  refine (stateless_of_reads (requireExecutor_reads run)).bind fun _ => ?_
  refine (stateless_of_reads (openHold_reads id)).bind fun _ => ?_
  refine (stateless_of_reads (requireTarget_reads id)).bind fun _ => ?_
  refine (stateless_of_reads (requireExecutablePreview_reads run)).bind fun _ => ?_
  refine (stateless_of_reads (planNow_reads id)).bind fun _ => ?_
  refine (openRecoveryAttempt_stateless id).bind fun _ => ?_
  refine (stateless_of_reads (readBack_reads run _)).bind fun read => ?_
  refine (commit_stateless rfl).bind fun _ => ?_
  split
  · exact (commit_stateless rfl).bind fun _ => trivial
  refine (stateless_of_reads (requireTarget_reads id)).bind fun _ => ?_
  refine (refusingRetry_stateless (authoriseRetry_stateless request id change read)).bind fun m => ?_
  refine ⟨trivial,fun report => (commit_stateless rfl).bind fun _ => ?_⟩
  have hsettle : ∀ outcome, (settleRetry id outcome).All Op.Stateless := fun _ => (commit_stateless rfl).bind fun _ => trivial
  have hcomplete : ∀ outcome, (completeRecovery id outcome).All Op.Stateless := fun _ => (commit_stateless rfl).bind fun _ => trivial
  split
  · exact hsettle _
  refine (stateless_of_reads (readBack_reads run _)).bind fun verified => (commit_stateless rfl).bind fun _ => ?_
  show Program.All _ (if _ then _ else _)
  split
  · exact hcomplete _
  · exact hsettle _

/-! Restart -/

theorem leads_settleInterruptedGuard (entry : RunId × GuardColumns) :
    standing.Leads (settleInterruptedGuard entry) σ fun _ _ => True := by
  have hnote (r : RunId) (report : GuardReport) : standing.Leads (commit r (.settleGuard report)) σ fun _ _ => True :=
    (leads_note (fun _ => rfl) rfl).mono fun _ _ _ => trivial
  unfold settleInterruptedGuard
  refine leads_fresh fun run _ hrun => ?_
  split
  · exact View.Leads.ret trivial
  refine leads_aside trivial (fun _ => rfl) fun report => ?_
  split
  · exact View.Leads.ret trivial
  refine leads_aside trivial (fun _ => rfl) fun change => ?_
  cases change with
  | none => exact hnote ..
  | some change =>
    show standing.Leads (if _ then _ else _) σ _
    split
    · exact (leads_settleLapsed hrun change entry.2 report).bind fun _ _ _ => View.Leads.ret trivial
    · exact hnote ..

theorem leads_settleInterruptedChange (entry : RunId × ChangeColumns) :
    standing.Leads (settleInterruptedChange entry) σ fun _ _ => True := by
  have hend : ∀ {run : RunRecord} (change : ChangeColumns), Current σ run →
      standing.Leads (if outcomeOnRecovery entry.2.dispatchBegan entry.2.mutation = .notWritten then
          (finish run .failed .failed none >>= fun _ => pure ())
        else if outcomeOnRecovery entry.2.dispatchBegan entry.2.mutation = .written ∧
            change.verification = .verified ∧ ¬run.preview.isGuarded then
          (finish run .succeeded .succeeded none >>= fun _ => pure ())
        else
          (recover run (if outcomeOnRecovery entry.2.dispatchBegan entry.2.mutation = .writeUnknown then
            .applyWriteUnknown else .applyInterruptedAfterWrite) >>= fun _ => pure ()) : Service Unit) σ fun _ _ => True := by
    intro run change hrun
    repeat' split
    all_goals first
      | exact (leads_finish hrun ..).bind fun _ _ _ => View.Leads.ret trivial
      | exact (leads_recover hrun _).bind fun _ _ _ => View.Leads.ret trivial
  unfold settleInterruptedChange
  refine leads_fresh fun run _ hrun => ?_
  split
  · exact View.Leads.ret trivial
  show standing.Leads (if _ then _ else _) σ _
  split
  · refine leads_noted (fun _ => rfl) rfl fun _ => leads_fresh fun run' _ hrun' => ?_
    exact leads_after (leads_requireChange _) fun change => hend change hrun'
  · exact hend entry.2 hrun

theorem leads_settleInterruptedAttempt (entry : RunId × AttemptColumns) :
    standing.Leads (settleInterruptedAttempt entry) σ fun _ _ => True :=
  (leads_note (fun _ => rfl) rfl).mono fun _ _ _ => trivial

theorem leads_startup : standing.Leads startup σ fun _ _ => True := by
  unfold startup
  refine leads_aside trivial (fun _ => rfl) fun guards => ?_
  refine (View.Leads.forEach (fun entry _ => leads_settleInterruptedGuard entry) guards σ).bind fun _ s₁ _ => ?_
  refine leads_aside trivial (fun _ => rfl) fun changes => ?_
  refine (View.Leads.forEach (fun entry _ => leads_settleInterruptedChange entry) changes s₁).bind fun _ s₂ _ => ?_
  refine leads_aside trivial (fun _ => rfl) fun attempts => ?_
  refine (View.Leads.forEach (fun entry _ => leads_settleInterruptedAttempt entry) attempts s₂).bind fun _ s₃ _ => ?_
  exact leads_aside trivial (fun _ => rfl) fun _ => View.Leads.ret trivial

/-- Whatever Runs a request meets, its commits name the states these are in. -/
theorem leads_program (request : RequestId) (q : Request) :
    standing.Leads (program request q) σ fun _ _ => True := by
  cases q with
  | startup => exact leads_startup
  | confirm run digest acknowledge typed displayName =>
    exact leads_stateless (stateless_of_harmless (harmless_of_granting (confirm_granting run digest acknowledge typed displayName)))
  | grantOverride run digest acknowledge =>
    exact leads_stateless (stateless_of_harmless (harmless_of_granting (grantOverride_granting run digest acknowledge)))
  | cancel run => exact leads_stateless (stateless_of_harmless (harmless_of_granting (cancel_granting run)))
  | apply run => exact leads_apply request run
  | keep run verdict acknowledge => exact leads_guardKeep run verdict acknowledge
  | recoveryConfirm run reason acknowledge =>
    exact leads_stateless (stateless_of_harmless (harmless_of_granting (recoveryConfirm_granting run reason acknowledge)))
  | recoveryRetry run => exact leads_stateless (recoveryRetry_stateless request run)
  | recoveryResolve run reason acknowledge statement objectName note =>
    exact leads_stateless
      (stateless_of_harmless (recoveryResolve_harmless run reason acknowledge statement objectName note))

end Service
/-- An executor was asked to write. -/
def Call.dispatch : Call → Bool
  | .mutated .. => true
  | _ => false

namespace World

/-- Nothing but calls of that kind was recorded. -/
def Unwritten (ok : Call → Prop) (w w' : World) : Prop :=
  ∀ r, ∃ new, w'.files r = { w.files r with journal := new ++ (w.files r).journal } ∧ ∀ call ∈ new, ok call

theorem Unwritten.of_files {ok : Call → Prop} {w w' : World} (h : w'.files = w.files) : Unwritten ok w w' :=
  fun r => ⟨[],congrFun h r,by simp⟩

theorem Unwritten.mono {ok ok' : Call → Prop} {w w' : World} (h : Unwritten ok w w') (hok : ∀ call, ok call → ok' call) :
    Unwritten ok' w w' := by
  intro r
  obtain ⟨new,hn,hc⟩ := h r
  exact ⟨new,hn,fun call hcall => hok call (hc call hcall)⟩

theorem unwritten_log {ok : Call → Prop} {w w' : World} (r : RunId) {call : Call} (hc : ok call) (h : w'.files = w.files) :
    Unwritten ok w (w'.log r call) := by
  intro run
  simp only [log,setFile,h]
  rcases eq_or_ne run r with rfl | hr
  · exact ⟨[call],Function.update_self ..,by simpa using hc⟩
  · exact ⟨[],Function.update_of_ne hr ..,by simp⟩

theorem unwritten_write {ok : Call → Prop} {w w' : World} (object : ObjectId) (value : Int) (writer : Option RunId)
    (h : Unwritten ok w w') : Unwritten ok w (w'.write object value writer) := h

variable {w w' : World} {i : RequestId} {op : Op} {out : Outside}

theorem unwritten_mutate (r : RunId) (m : MutationRequest) (outcome : MutationOutcome) (landed : Bool) :
    Unwritten (fun _ => True) w (w.mutate i r m outcome landed) := by
  have hlog : Unwritten (fun _ => True) w
      (w.log r (.mutated i m.purpose m.attempt outcome (outcome.lands landed))) := unwritten_log r trivial rfl
  unfold mutate
  split
  · dsimp only
    split
    · exact unwritten_write _ _ _ hlog
    · exact hlog
  · exact hlog

theorem unwritten_armGuard (r : RunId) (guard : ArmedGuard) (delivery : Delivery) :
    Unwritten (fun call => call.dispatch = false) w (w.armGuard i r guard delivery).2 := by
  unfold armGuard
  repeat' split
  all_goals exact unwritten_log _ rfl rfl

theorem unwritten_disarmGuard (r : RunId) (delivery : Delivery) :
    Unwritten (fun call => call.dispatch = false) w (w.disarmGuard i r delivery).2 := by
  unfold disarmGuard
  split <;> exact unwritten_log _ rfl rfl

theorem unwritten_outer {e : External} (h : outer e w = some w') :
    Unwritten (fun call => call.dispatch = false) w w' := by
  cases e with
  | fire r outcome landed =>
    simp only [outer,fire] at h
    split at h
    · cases h
    · split at h
      · split at h
        · cases h; exact unwritten_write _ _ _ (unwritten_log _ rfl rfl)
        · cases h
      · cases h; exact unwritten_log _ rfl rfl
  | restartAgent => cases h; exact .of_files rfl
  | foreignWrite object value => cases h; exact .of_files rfl

/-- Only a commit writes a row, and it writes its own Run's; only a mutation is logged as one. -/
theorem perform_unwritten (i : RequestId) (op : Op) (out : Outside) (w : World) (hop : ∀ r c, op ≠ .commit r c) :
    Unwritten (fun call => call.dispatch → ∃ r m, op = .mutate r m) w (perform i op out w).2 := by
  have hquiet : ∀ {v}, Unwritten (fun call => call.dispatch = false) w v →
      Unwritten (fun call => call.dispatch → ∃ r m, op = .mutate r m) w v := fun h =>
    h.mono fun call hc hd => absurd (hc.symm.trans hd) (by simp)
  cases op with
  | commit r c => exact absurd rfl (hop r c)
  | acquire r =>
    refine .of_files ?_
    simp only [perform,acquire]
    repeat' split
    all_goals rfl
  | mutate r m => exact (unwritten_mutate r m _ _).mono fun _ _ _ => ⟨r,m,rfl⟩
  | armGuard r guard => exact hquiet (unwritten_armGuard r guard _)
  | disarmGuard r => exact hquiet (unwritten_disarmGuard r _)
  | guardStatus r => exact hquiet (unwritten_log _ rfl rfl)
  | _ => exact .of_files rfl

/-- The Runs as the store has them. -/
def standings (w : World) : Standings := w.record

theorem Unwritten.standings {ok : Call → Prop} (h : Unwritten ok w w') : w'.standings = w.standings := by
  funext r
  obtain ⟨new,hj,_⟩ := h r
  simp only [World.standings,record,hj]
  rfl

theorem standings_commit (w : World) (i : RequestId) (r : RunId) (c : Commit) :
    (w.commit i r c).2.standings = standing.after (.commit r c) w.standings (w.commit i r c).1 := by
  rcases commit_cases w i r c with ⟨e,he⟩ | ⟨f,_,hf,he⟩
  · rw [he]; rfl
  obtain ⟨_,hrows⟩ := Commit.run_ok hf
  have hstate : f.state = (c.leads (w.files r).preview).getD (w.files r).state := by
    have hs := congrArg Rows.state hrows
    rw [Commit.rows_state,Commit.enters_eq] at hs
    exact hs
  have hframe := @Commit.rows_frame i (w.files r).rows c
  rw [← hrows] at hframe
  obtain ⟨_,hobject,hpreview,_,hsupported⟩ := hframe
  rw [he]
  funext run
  show (w.setFile r f).record run = Function.update w.standings r { w.record r with state := _ } run
  rcases eq_or_ne run r with rfl | hr
  · rw [Function.update_self]
    simp only [record,setFile,Function.update_self,hstate]
    exact congr (congr (congr (congrArg _ hobject) hsupported) hpreview) rfl
  · rw [Function.update_of_ne hr]
    simp only [standings,record,setFile,Function.update_of_ne hr]

end World

namespace World

variable {w w' : World} {i : RequestId} {op : Op} {out : Outside}

theorem acquire_record {r : RunId} {record : RunRecord} (h : (w.acquire r).1 = .ok record) : record = w.record r := by
  unfold acquire at h
  repeat' split at h
  all_goals first
    | exact (Except.ok.inj h).symm
    | cases h

theorem perform_requests (i : RequestId) (op : Op) (out : Outside) (w : World) :
    (perform i op out w).2.requests = w.requests := by
  have hmoved := perform_moved i op out w
  generalize (perform i op out w).2 = v at hmoved ⊢
  cases hmoved with
  | heard v hv => exact hv.requests
  | acquired r locks hop ha hl => rfl
  | committed r c f hop hr hf => rfl
  | served hop => rfl

theorem enter_requests {q : Request} (h : enter q w = some (i,w')) : i + 1 = w'.requests.length := by
  unfold enter at h
  repeat' split at h
  all_goals cases h
  all_goals simp

end World

/-- The Runs are seen as the store has them; the latest request is the last one received. -/
def sighting : Interleaved.Sighting engine standing where
  see := World.standings
  latest w i := i + 1 = w.requests.length
  unique hi hj := Nat.succ.inj (hi.trans hj.symm)
  answers i op a w := by
    cases op with
    | run r => rfl
    | acquire r => exact fun record hr => World.acquire_record hr
    | _ => trivial
  after i op a w := by
    cases op with
    | commit r c => exact World.standings_commit w i r c
    | _ =>
      exact (World.perform_unwritten i _ a w (by simp)).standings
  stays i op a w j := by
    have hsame := World.perform_requests i op a w
    exact hsame ▸ Iff.rfl
  entered he := World.enter_requests he
  outer he := ⟨(World.unwritten_outer he).standings,fun j => by
    show j + 1 = _ ↔ j + 1 = _
    rw [(World.outer_heard he).requests]⟩
  safe he := View.Safe.mono (fun _ _ _ => trivial) (Service.leads_program _ _)

end LocalPlane
