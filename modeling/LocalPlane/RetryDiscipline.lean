import LocalPlane.Retrying
import LocalPlane.RetryRows
import LocalPlane.MutationChain

/-!
# The discipline of a recovery retry

The attempt a retry opens is settled, and the hold given back with what was proved, exactly
where nothing leaves the request between opening the attempt and settling it.
-/

set_option linter.dupNamespace false

namespace LocalPlane

open Interleaved

namespace Retrying

open Service (ask commit refuse judge appliedExpectation)

/-- The world a retry opens its attempt in: the hold is open and nobody else's attempt is under way. -/
structure Held (i : RequestId) (r : RunId) (w : World) : Prop where
  listed : r ∈ w.runs
  settled : Settled i (w.files r).rows.attempts
  hold : (w.files r).rows.OpenHold (w.isLocked r)

/-- And while it is under way: one attempt more than when the request was received. -/
structure Standing (i : RequestId) (r : RunId) (w v : World) (a : AttemptColumns) : Prop where
  listed : r ∈ v.runs
  object : (v.files r).rows.object = (w.files r).rows.object
  preview : (v.files r).rows.preview = (w.files r).rows.preview
  change : (v.files r).rows.change = (w.files r).rows.change
  attempts : (v.files r).rows.attempts = (w.files r).rows.attempts ++ [a]
  own : a.openedBy = i
  moving : a.outcome = .inFlight
  authorised : (v.files r).authorised a = true
  lock : v.locks.forRun r = w.locks.forRun r

section Standing

variable {i : RequestId} {r : RunId} {w v : World} {a : AttemptColumns} {s : Session}

theorem Standing.undisciplined (h : Standing i r w s.world a) : ¬Disciplined i r w s := by
  intro hd
  have ha : a ∈ (s.world.files r).rows.attempts := by
    rw [h.attempts]
    exact List.mem_append_right _ List.mem_cons_self
  exact hd.settled a ha h.own h.moving

/-- The hold is open for the request whose attempt it is. -/
theorem Standing.openHold (hh : Held i r w) (h : Standing i r w v a) :
    (v.files r).requireOpenHold (v.isLocked r) (some i) = .ok () := by
  obtain ⟨hrequired,hreleased,hlocked⟩ := hh.hold
  have hchecked : a.check = true := (v.files r).rows_checked.attempts a (by rw [h.attempts]; simp)
  have hlast : a.releasesHold = false := check_moving hchecked (by simp [AttemptColumns.moving,h.moving])
  have hrequired' : (v.files r).recoveryRequired = true := by
    rw [← RunFile.rows_recoveryRequired,Rows.recoveryRequired,h.change]
    exact hrequired
  have hreleased' : (v.files r).releaseOf.isSome = false := by
    rw [← RunFile.rows_released,Rows.released,h.attempts,List.any_append]
    simp only [Rows.released] at hreleased
    simp [hreleased,hlast]
  have hlocked' : v.isLocked r = true := by
    unfold World.isLocked at hlocked ⊢
    rw [h.lock]
    exact hlocked
  have hothers : ((v.files r).inFlight.any fun b => some b.1.openedBy ≠ some i) = false := by
    cases hb : (v.files r).inFlight with
    | none => rfl
    | some b =>
      have hmem : b.1 ∈ (v.files r).rows.attempts := List.mem_map_of_mem (List.mem_of_find?_eq_some hb)
      have hin : b.1.outcome = .inFlight := by simpa using List.find?_some hb
      rw [h.attempts] at hmem
      rcases List.mem_append.mp hmem with hmem | hmem
      · have hstill := (hh.settled b.1 hmem).2.1
        simp [AttemptColumns.moving,hin] at hstill
      · have hsame : b.1 = a := List.mem_singleton.mp hmem
        simp [hsame,h.own]
  unfold RunFile.requireOpenHold
  simp only [hrequired',hreleased',hlocked',hothers]
  rfl

theorem commit_accepted {c : Commit} {f : RunFile} (hr : r ∈ v.runs) (h : c.run i (v.isLocked r) (v.files r) = .ok f) :
    v.commit i r c = (.ok (),if c.releases then { v.setFile r f with locks := v.locks.release r } else v.setFile r f) := by
  rw [World.commit,if_pos hr,h]
  rfl

theorem Standing.settled (hh : Held i r w) (h : Standing i r w v a) : Settled a.openedBy (w.files r).rows.attempts := by
  rw [h.own]
  exact hh.settled

/-- A recording of the attempt that its checks accept is taken, and changes nothing but its row. -/
theorem Standing.recorded (hh : Held i r w) (h : Standing i r w v a) {c : Commit} {event : RunEvent}
    {update : AttemptColumns → AttemptColumns}
    (hrun : c.run i (v.isLocked r) (v.files r) = (v.files r).recoveryStep i i event update)
    (hrows : c.rows i (v.files r).rows = (v.files r).rows.reattempt i update) (hkeeps : c.releases = false)
    (hcheck : (update a).check = true) (hsame : (v.files r).authorised (update a) = (v.files r).authorised a) :
    ∃ f, v.commit i r c = (.ok (),v.setFile r f) ∧
      f.rows = { (v.files r).rows with attempts := (w.files r).rows.attempts ++ [update a] } := by
  have hown := h.own
  subst hown
  obtain ⟨g,hg⟩ := RunFile.updateAttempt_last update h.attempts (h.settled hh) h.moving hcheck (hsame.trans h.authorised)
  have hf : c.run a.openedBy (v.isLocked r) (v.files r) = .ok (g.note a.openedBy event) := by
    rw [hrun]
    unfold RunFile.recoveryStep
    rw [hg]
    rfl
  refine ⟨g.note a.openedBy event,?_,?_⟩
  · rw [commit_accepted h.listed hf,hkeeps]
    rfl
  · rw [(Commit.run_ok hf).2,hrows,Rows.reattempt_last update h.attempts (h.settled hh)]

/-- The attempt goes on with the row so changed. -/
theorem Standing.moved (h : Standing i r w v a) {f : RunFile} {b : AttemptColumns} {grants : List Confirmation}
    (hrows : f.rows = { (v.files r).rows with grants := grants, attempts := (w.files r).rows.attempts ++ [b] })
    (hown : b.openedBy = i) (hmoving : b.outcome = .inFlight) (hauthorised : f.authorised b = true) :
    Standing i r w (v.setFile r f) b := by
  have hfile : (v.setFile r f).files r = f := by simp [World.setFile]
  exact {
    listed := h.listed
    object := by rw [hfile,hrows]; exact h.object
    preview := by rw [hfile,hrows]; exact h.preview
    change := by rw [hfile,hrows]; exact h.change
    attempts := by rw [hfile,hrows]
    own := hown
    moving := hmoving
    authorised := by rw [hfile]; exact hauthorised
    lock := h.lock }

/-- The request has ended its attempt, and kept the hold or given it back with it. -/
structure Closed (i : RequestId) (r : RunId) (w v : World) (b : AttemptColumns) : Prop where
  attempts : (v.files r).rows.attempts = (w.files r).rows.attempts ++ [b]
  own : b.openedBy = i
  ended : b.outcome ≠ .inFlight
  lock : v.locks.forRun r = if b.outcome = .proven ∨ b.outcome = .verified then none else w.locks.forRun r

/-- An ending that keeps the hold is taken if its checks accept it. -/
theorem Standing.closed (hh : Held i r w) (h : Standing i r w v a) {c : Commit} {event : RunEvent}
    {update : AttemptColumns → AttemptColumns}
    (hrun : c.run i (v.isLocked r) (v.files r) = (v.files r).recoveryStep i i event update)
    (hrows : c.rows i (v.files r).rows = (v.files r).rows.reattempt i update) (hkeeps : c.releases = false)
    (hcheck : (update a).check = true) (hsame : (v.files r).authorised (update a) = (v.files r).authorised a)
    (hown : (update a).openedBy = i) (hends : (update a).outcome ≠ .inFlight)
    (hheld : ¬((update a).outcome = .proven ∨ (update a).outcome = .verified)) :
    ∃ u, v.commit i r c = (.ok (),u) ∧ Closed i r w u (update a) := by
  obtain ⟨f,hcommit,hf⟩ := h.recorded hh hrun hrows hkeeps hcheck hsame
  refine ⟨_,hcommit,?_,hown,hends,h.lock.trans (if_neg hheld).symm⟩
  simp only [World.setFile,Function.update_self]
  rw [hf]

/-- The hold is given back with the attempt. -/
theorem Standing.released (hh : Held i r w) (h : Standing i r w v a) {outcome : RecoveryAttemptOutcome}
    (hcheck : (a.releasing outcome).check = true) (hreleases : outcome = .proven ∨ outcome = .verified) :
    ∃ u, v.commit i r (.completeRecovery outcome) = (.ok (),u) ∧ Closed i r w u (a.releasing outcome) := by
  have hown := h.own
  obtain ⟨g,hg⟩ := RunFile.updateAttempt_last (AttemptColumns.releasing outcome) h.attempts (h.settled hh) h.moving
    hcheck h.authorised
  rw [hown] at hg
  have hrun : (Commit.completeRecovery outcome).run i (v.isLocked r) (v.files r) =
      .ok ((g.note i .recoveryRetryFinished).note i .recoveryHoldReleased) := by
    show (v.files r).completeRecovery i _ outcome = _
    unfold RunFile.completeRecovery
    rw [h.openHold hh]
    change ((v.files r).updateAttempt i (AttemptColumns.releasing outcome) >>= fun f =>
      .ok ((f.note i .recoveryRetryFinished).note i .recoveryHoldReleased)) = _
    rw [hg]
    rfl
  refine ⟨_,commit_accepted h.listed hrun,?_,hown,?_,?_⟩
  · have hrows := (Commit.run_ok hrun).2
    have hlast := Rows.reattempt_last (AttemptColumns.releasing outcome) h.attempts (h.settled hh)
    rw [hown] at hlast
    simp only [Commit.releases,World.setFile,Function.update_self,if_true]
    rw [hrows]
    exact congrArg Rows.attempts hlast
  · rintro (hflight : outcome = .inFlight)
    rw [hflight] at hreleases
    rcases hreleases with h | h <;> cases h
  · have hreleased : (if outcome = .proven ∨ outcome = .verified then none else w.locks.forRun r) = (none : Option LockKey) :=
      if_pos hreleases
    show (v.locks.release r).forRun r = _
    rw [LockTable.forRun_release,if_pos rfl]
    exact hreleased.symm

theorem Closed.disciplined (hh : Held i r w) {b : AttemptColumns} (h : Closed i r w s.world b) (hf : Faithful r w s.sent s.readings) :
    Disciplined i r w s := by
  have honly : ∀ c ∈ (s.world.files r).rows.attempts, c.openedBy = i → c = b := by
    intro c hc hi
    rw [h.attempts] at hc
    rcases List.mem_append.mp hc with hc | hc
    · exact absurd hi (hh.settled c hc).1
    · exact List.mem_singleton.mp hc
  have hb : b ∈ (s.world.files r).rows.attempts := by
    rw [h.attempts]
    exact List.mem_append_right _ List.mem_cons_self
  refine { toFaithful := hf, settled := fun c hc hi => ?_, released := fun hlocked => ?_ }
  · rw [honly c hc hi]
    exact h.ended
  · rw [h.lock]
    constructor
    · intro hnone
      by_cases hp : b.outcome = .proven ∨ b.outcome = .verified
      · exact ⟨b,hb,h.own,hp⟩
      · rw [if_neg hp] at hnone
        rw [Option.isNone_iff_eq_none.mp hnone] at hlocked
        cases hlocked
    · rintro ⟨c,hc,hi,hp⟩
      rw [honly c hc hi] at hp
      rw [if_pos hp]
      rfl

end Standing

/-- What is owed at the end of a run: the discipline, exactly where nothing disturbed it. -/
def Owed {α : Type} (i : RequestId) (r : RunId) (w : World) : Except Error α → Session × Bool → Prop :=
  fun _ v => Disciplined i r w v.1 ↔ v.2 = true

section Stages

variable {α : Type} {i : RequestId} {r : RunId} {w v : World} {a : AttemptColumns} {s : Session}

theorem Standing.owed {x : Except Error α} (h : Standing i r w s.world a) : Owed i r w x (s,false) :=
  iff_of_false h.undisciplined (by simp)

theorem ends_ret {x : Except Error α} {kept : Bool} {Q : Except Error α → Session × Bool → Prop} (h : Q x (s,kept)) :
    Ends i (.ret x) Q s kept := h

theorem ends_refuseRecovery (hh : Held i r w) (hs : Standing i r w s.world a) (hf : Faithful r w s.sent s.readings) (code : String)
    (hcheck : (a.refusedWith code).check = true) {Q : Except Error α → Session × Bool → Prop}
    (hQ : ∀ v, Disciplined i r w v → Q (.error (.refused code)) (v,true)) :
    Ends i (.act (.commit r (.refuseRecovery code)) fun x => .ret x >>= fun _ => refuse code) Q s true := by
  obtain ⟨u,hcommit,hclosed⟩ := hs.closed hh (c := .refuseRecovery code) rfl rfl rfl hcheck rfl hs.own
    (by simp) (by simp)
  exact ends_unraised hcommit rfl (ends_ret (hQ _ (Closed.disciplined (s := ⟨u,s.sent,s.readings⟩) hh hclosed hf)))

theorem ends_settleRetry (hh : Held i r w) (hs : Standing i r w s.world a) (hf : Faithful r w s.sent s.readings)
    {outcome : RecoveryAttemptOutcome} (hcheck : (a.closedAs outcome).check = true) (hends : outcome ≠ .inFlight)
    (hkeeps : ¬(outcome = .proven ∨ outcome = .verified)) :
    Ends i (Service.settleRetry r outcome) (Owed i r w) s true := by
  obtain ⟨u,hcommit,hclosed⟩ := hs.closed hh (c := .settleRetry outcome) rfl rfl rfl hcheck rfl hs.own hends hkeeps
  have hdisciplined := Closed.disciplined (s := ⟨u,s.sent,s.readings⟩) hh hclosed hf
  exact ends_unraised hcommit rfl (ends_ret (iff_of_true hdisciplined rfl))

/-- An ending the checks refuse leaves the attempt under way. -/
theorem ends_settleRetry_refused (hh : Held i r w) (hs : Standing i r w s.world a) {outcome : RecoveryAttemptOutcome}
    (hcheck : (a.closedAs outcome).check = false) : Ends i (Service.settleRetry r outcome) (Owed i r w) s false := by
  have hcommit : s.world.commit i r (.settleRetry outcome) = (.error .integrity,s.world) := by
    have hrefused : (Commit.settleRetry outcome).run i (s.world.isLocked r) (s.world.files r) = .error .integrity := by
      show (s.world.files r).recoveryStep i i .recoveryRetryFinished (AttemptColumns.closedAs outcome) = _
      have hupdate := RunFile.updateAttempt_refused (AttemptColumns.closedAs outcome) hs.attempts (hs.settled hh) hcheck
      rw [hs.own] at hupdate
      unfold RunFile.recoveryStep
      rw [hupdate]
      rfl
    rw [World.commit,if_pos hs.listed,hrefused]
  exact ends_unraised hcommit rfl (ends_ret hs.owed)

theorem ends_completeRecovery (hh : Held i r w) (hs : Standing i r w s.world a) (hf : Faithful r w s.sent s.readings)
    {outcome : RecoveryAttemptOutcome} (hcheck : (a.releasing outcome).check = true)
    (hreleases : outcome = .proven ∨ outcome = .verified) :
    Ends i (Service.completeRecovery r outcome) (Owed i r w) s true := by
  obtain ⟨u,hcommit,hclosed⟩ := hs.released hh hcheck hreleases
  have hdisciplined := Closed.disciplined (s := ⟨u,s.sent,s.readings⟩) hh hclosed hf
  exact ends_unraised hcommit rfl (ends_ret (iff_of_true hdisciplined rfl))

/-- Something an executor returned is recorded in the row, or recording it raises. -/
theorem ends_record (hh : Held i r w) (hs : Standing i r w s.world a) (c : Commit) {event : RunEvent}
    (update : AttemptColumns → AttemptColumns) {k : Except Error Unit → Service α} {kept : Bool}
    (hrun : ∀ locked f, c.run i locked f = f.recoveryStep i i event update)
    (hrows : ∀ x, c.rows i x = x.reattempt i update) (hkeeps : c.releases = false)
    (hcheck : (update a).check = true) (hown : (update a).openedBy = a.openedBy) (hmoving : (update a).outcome = a.outcome)
    (hsame : ∀ f : RunFile, f.authorised (update a) = f.authorised a)
    (h : ∀ v, Standing i r w v (update a) → Ends i (k (.ok ())) (Owed i r w) { s with world := v } kept) :
    Ends i (.act (.commit r c) k) (Owed i r w) s kept := by
  obtain ⟨f,hcommit,hf⟩ := hs.recorded hh (hrun _ _) (hrows _) hkeeps hcheck (hsame _)
  have hgrants : f.rows.grants = (s.world.files r).rows.grants := by rw [hf]
  have hauthorised : f.authorised (update a) = true := by
    rw [RunFile.authorised_grants hgrants,hsame]
    exact hs.authorised
  exact ends_commit hcommit (fun _ => hs.owed) (h _ (hs.moved hf (hown.trans hs.own) (hmoving.trans hs.moving) hauthorised))

theorem Faithful.again {sent : List Sent} {readings : List Observed} (h : Faithful r w sent readings) (hne : readings ≠ [])
    (observed : Observed) : Faithful r w sent (readings ++ [observed]) :=
  ⟨fun ch first hch hfirst => h.proven ch first hch (by rwa [List.head?_append_of_ne_nil _ hne] at hfirst),h.faithful⟩

/-- After a write: the target is read again, the reading recorded, and the attempt ended from it. -/
theorem ends_verify {run : RunRecord} {ch : ChangeColumns} {n : ℕ} {read : ReadBack} {g : RequestId} {c : Correlation}
    (hh : Held i r w) (hrun : run.id = r) (hpreview : run.preview = (w.files r).rows.preview) (hch : (w.files r).rows.change = some ch)
    (hs : Standing i r w s.world (((AttemptColumns.seen i n read).dispatched i g c).answered .written))
    (hf : Faithful r w s.sent s.readings) (hread : s.readings ≠ []) :
    Ends i (do
      let verified ← Service.readBack run (appliedExpectation ch)
      commit r (.recordRecoveryVerification verified)
      let outcome := recoveryOutcomeFor .written verified.outcome
      if outcome = .verified then Service.completeRecovery r outcome else Service.settleRetry r outcome) (Owed i r w) s true := by
  subst hrun
  refine ends_observe hs.owed fun observed => ?_
  have hverdict : s.verdict run.id observed = some (judge run.preview (appliedExpectation ch) observed).outcome := by
    unfold Session.verdict
    rw [hs.change,hch,show (s.world.files run.id).preview = run.preview from hs.preview.trans hpreview.symm]
    rfl
  rw [hverdict]
  have hfaithful := hf.again hread observed
  obtain ⟨back,hback⟩ : ∃ back, judge run.preview (appliedExpectation ch) observed = back := ⟨_,rfl⟩
  have hobserved : back.outcome = .verified → back.observation.isSome = true := hback ▸ Service.judge_observed _ _ _
  change Ends i (.act (.commit run.id (.recordRecoveryVerification (judge run.preview (appliedExpectation ch) observed))) _) _ _ _
  rw [hback]
  refine ends_record (s := ⟨s.world,s.sent,s.readings ++ [observed]⟩) hh hs (.recordRecoveryVerification back)
    (AttemptColumns.reread back) (fun _ _ => rfl) (fun _ => rfl) rfl AttemptColumns.check_reread rfl rfl (fun _ => rfl) fun v hv => ?_
  change Ends i (if recoveryOutcomeFor .written back.outcome = .verified then _ else _) _ _ _
  by_cases hproved : back.outcome = .verified
  · have houtcome : recoveryOutcomeFor .written back.outcome = .verified := by
      simp [recoveryOutcomeFor,VerificationOutcome.proved,hproved]
    have hjudged : (true && decide (s.readings ≠ [] → some back.outcome ≠ some .notAttempted)) = true := by simp [hproved]
    rw [houtcome,if_pos rfl,hjudged]
    exact ends_completeRecovery hh hv hfaithful (AttemptColumns.check_verified hproved (hobserved hproved)) (.inr rfl)
  · have houtcome : recoveryOutcomeFor .written back.outcome = .notProven := by
      simp [recoveryOutcomeFor,VerificationOutcome.proved,hproved]
    rw [houtcome,if_neg (by decide)]
    by_cases hjudged : back.outcome = .notAttempted
    · have hkept : (true && decide (s.readings ≠ [] → some back.outcome ≠ some .notAttempted)) = false := by
        simp [hjudged,hread]
      rw [hkept]
      refine ends_settleRetry_refused hh hv (Bool.eq_false_iff.mpr fun hcheck => ?_)
      exact (AttemptColumns.check_unproven hproved).mp hcheck hjudged
    · have hkept : (true && decide (s.readings ≠ [] → some back.outcome ≠ some .notAttempted)) = true := by simp [hjudged]
      rw [hkept]
      exact ends_settleRetry hh hv hfaithful ((AttemptColumns.check_unproven hproved).mpr hjudged) (by decide) (by simp)

theorem Standing.mutated (h : Standing i r w v a) (m : MutationRequest) (o : Outside) :
    Standing i r w (World.perform i (.mutate r m) o v).2 a := by
  have hlog (call : Call) : Standing i r w (v.log r call) a := by
    have hfile : (v.log r call).files r = { v.files r with journal := call :: (v.files r).journal } := by
      simp [World.log,World.setFile]
    exact { h with
      object := by rw [hfile]; exact h.object
      preview := by rw [hfile]; exact h.preview
      change := by rw [hfile]; exact h.change
      attempts := by rw [hfile]; exact h.attempts
      authorised := by rw [hfile]; exact h.authorised }
  show Standing i r w (v.mutate i r m o.outcome o.landed) a
  simp only [World.mutate]
  split
  · split
    · exact { hlog _ with }
    · exact hlog _
  · exact hlog _

/-- The dispatch, and everything after it. -/
theorem ends_dispatch {run : RunRecord} {ch : ChangeColumns} {n : ℕ} {read : ReadBack} {g : RequestId} {c : Correlation}
    {m : MutationRequest} {first : Observed} (hh : Held i r w) (hrun : run.id = r) (hpreview : run.preview = (w.files r).rows.preview)
    (hch : (w.files r).rows.change = some ch) (hm : sends s.world r m = ⟨(w.files r).object,wanted ch.planned⟩)
    (hs : Standing i r w s.world ((AttemptColumns.seen i n read).dispatched i g c)) (hsent : s.sent = [])
    (hread : s.readings = [first]) (hfirst : (judge (w.files r).preview (appliedExpectation ch) first).outcome.proved = false) :
    Ends i (do
      let report ← ask (.mutate r m)
      commit r (.recordRecovery report.outcome)
      if report.outcome ≠ .written then Service.settleRetry r (recoveryOutcomeFor report.outcome .notAttempted)
      else
        let verified ← Service.readBack run (appliedExpectation ch)
        commit r (.recordRecoveryVerification verified)
        let outcome := recoveryOutcomeFor .written verified.outcome
        if outcome = .verified then Service.completeRecovery r outcome else Service.settleRetry r outcome) (Owed i r w) s true := by
  have hfaithful : Faithful r w (s.sent ++ [sends s.world r m]) s.readings := by
    constructor
    · intro ch' first' hch' hfirst' hproved
      rw [hread] at hfirst'
      cases hch.symm.trans hch'
      cases hfirst'
      rw [hfirst] at hproved
      cases hproved
    · intro x hx
      rw [hsent,List.nil_append] at hx
      exact ⟨ch,hch,(List.mem_singleton.mp hx).trans hm⟩
  refine ends_mutate (fun o => Standing.owed (hs.mutated m o)) fun o => ?_
  refine ends_record (s := ⟨_,_,_⟩) hh (hs.mutated m o) (.recordRecovery o.outcome) (AttemptColumns.answered o.outcome)
    (fun _ _ => rfl) (fun _ => rfl) rfl AttemptColumns.check_answered rfl rfl (fun _ => rfl) fun v hv => ?_
  change Ends i (if o.outcome ≠ .written then _ else _) _ _ _
  by_cases hwritten : o.outcome = .written
  · rw [if_neg (not_not.mpr hwritten)]
    rw [hwritten] at hv
    exact ends_verify (s := ⟨_,_,_⟩) hh hrun hpreview hch hv hfaithful (by simp [hread])
  · rw [if_pos hwritten]
    have hends : recoveryOutcomeFor o.outcome .notAttempted ≠ .inFlight := Service.recoveryOutcomeFor_ne_inFlight _ _
    have hkeeps : ¬(recoveryOutcomeFor o.outcome .notAttempted = .proven ∨
        recoveryOutcomeFor o.outcome .notAttempted = .verified) := by
      revert hwritten
      cases o.outcome <;> decide
    exact ends_settleRetry (s := ⟨_,_,_⟩) hh hv hfaithful (AttemptColumns.check_unwritten hwritten) hends hkeeps

/-- Authority is spent and the dispatch marked, or there is none and nothing is written. -/
theorem Standing.spent (hh : Held i r w) (hs : Standing i r w v a) (c : Correlation)
    (hcheck : ∀ g, (a.dispatched i g c).check = true) :
    (∃ code, v.commit i r (.spendRecovery c) = (.error (.refused code),v)) ∨
    ∃ f g, v.commit i r (.spendRecovery c) = (.ok (),v.setFile r f) ∧ Standing i r w (v.setFile r f) (a.dispatched i g c) := by
  have hopen := hs.openHold hh
  have hown := hs.own
  cases hout : (v.files r).outstanding with
  | none =>
    left
    have hrun : (Commit.spendRecovery c).run i (v.isLocked r) (v.files r) = .error (.refused "recovery_confirmation_required") := by
      show (v.files r).spendRecovery i _ c = _
      unfold RunFile.spendRecovery
      rw [hopen,hout]
      rfl
    exact ⟨_,by rw [World.commit,if_pos hs.listed,hrun]⟩
  | some grant =>
    right
    let spentFile : RunFile := { v.files r with
      grants := (v.files r).grants.map fun g => if g = grant then { g with consumedBy := some (.retry i) } else g }
    have hmem : grant ∈ (v.files r).grants := List.mem_of_find?_eq_some hout
    have hauthorised : spentFile.authorised (a.dispatched i grant.grantedBy c) = true := by
      refine List.any_eq_true.mpr ⟨{ grant with consumedBy := some (.retry i) },List.mem_map.mpr ⟨grant,hmem,if_pos rfl⟩,?_⟩
      simp [AttemptColumns.dispatched]
    obtain ⟨f,hf⟩ := RunFile.updateAttempt_last (f := spentFile) (AttemptColumns.dispatched i grant.grantedBy c) hs.attempts
      (hs.settled hh) hs.moving (hcheck _) hauthorised
    rw [hown] at hf
    have hrun : (Commit.spendRecovery c).run i (v.isLocked r) (v.files r) =
        .ok ((f.note i .recoveryConfirmationConsumed).note i .recoveryMutationDispatched) := by
      show (v.files r).spendRecovery i _ c = _
      unfold RunFile.spendRecovery
      rw [hopen,hout]
      change (spentFile.updateAttempt i (AttemptColumns.dispatched i grant.grantedBy c) >>= fun f =>
        .ok ((f.note i .recoveryConfirmationConsumed).note i .recoveryMutationDispatched)) = _
      rw [hf]
      rfl
    have hrows := (Commit.run_ok hrun).2
    have hlast := Rows.reattempt_last (x := spentFile.rows) (AttemptColumns.dispatched i grant.grantedBy c) hs.attempts (hs.settled hh)
    rw [hown] at hlast
    have hspent : (Commit.spendRecovery c).rows i (v.files r).rows =
        spentFile.rows.reattempt i (AttemptColumns.dispatched i grant.grantedBy c) := by
      have houtstanding : (v.files r).rows.outstanding = some grant := hout
      simp only [Commit.rows,houtstanding]
      rfl
    rw [hspent,hlast] at hrows
    refine ⟨_,grant.grantedBy,commit_accepted hs.listed hrun,hs.moved hrows hown hs.moving ?_⟩
    have hgrants : ((f.note i .recoveryConfirmationConsumed).note i .recoveryMutationDispatched).rows.grants =
        spentFile.rows.grants := by
      rw [hrows]
    rw [RunFile.authorised_grants hgrants]
    exact hauthorised

/-- Either the dispatch is marked, for what the change wants and nothing else, or it is refused and nothing moved. -/
def Authorises (i : RequestId) (r : RunId) (w : World) (ch : ChangeColumns) (n : ℕ) (read : ReadBack) (s : Session) :
    Except Error MutationRequest → Session × Bool → Prop :=
  Program.Either
    (fun m v => v.2 = true ∧ v.1.sent = s.sent ∧ v.1.readings = s.readings ∧
      (∃ g c, Standing i r w v.1.world ((AttemptColumns.seen i n read).dispatched i g c)) ∧
      ∀ u : World, (u.files r).preview.change = ch.planned → (sends u r m).asked = wanted ch.planned)
    fun e v => (∃ code, e = .refused code) ∧ v = (s,true)

theorem ends_authoriseRetry {ch : ChangeColumns} {n : ℕ} {read : ReadBack} (hh : Held i r w)
    (hs : Standing i r w s.world (AttemptColumns.seen i n read)) :
    Ends i (Service.authoriseRetry i r ch read) (Authorises i r w ch n read s) s true := by
  have hrefused (code : String) : Ends i (refuse code) (Authorises i r w ch n read s) s true := ⟨⟨code,rfl⟩,rfl⟩
  have hspend (c : Correlation) (m : MutationRequest)
      (hm : ∀ u : World, (u.files r).preview.change = ch.planned → (sends u r m).asked = wanted ch.planned) :
      Ends i (.act (.commit r (.spendRecovery c)) fun x => .ret x >>= fun _ => .ret (.ok m))
        (Authorises i r w ch n read s) s true := by
    rcases hs.spent hh c fun _ => AttemptColumns.check_dispatched with ⟨code,hcommit⟩ | ⟨f,g,hcommit,hstanding⟩
    · exact ends_unraised hcommit rfl (hrefused code)
    · exact ends_unraised hcommit rfl (ends_ret ⟨rfl,rfl,rfl,⟨g,c,hstanding⟩,hm⟩)
  refine ends_quiet (.replan r) rfl fun o => ?_
  simp only [World.perform]
  cases o.refusal with
  | some code => exact hrefused code
  | none =>
    refine ends_quiet (.correlate r) rfl fun o => ?_
    simp only [World.perform]
    cases o.correlation with
    | error code => exact hrefused code
    | ok c =>
      cases hp : ch.planned with
      | action verb before expected =>
        refine hspend c _ fun u hu => ?_
        rw [hp] at hu ⊢
        simp only [sends,hu,wanted]
      | field name current desired =>
        cases hvalue : read.value with
        | none => exact hrefused _
        | some value =>
          by_cases hsame : value = desired
          · simp only [hsame,if_true]
            exact hrefused _
          · simp only [if_neg hsame]
            refine hspend c _ fun u hu => ?_
            rw [hp] at hu ⊢
            simp [sends,hu,wanted]

theorem authoriseRetry_quiet (ch : ChangeColumns) (read : ReadBack) :
    (Service.authoriseRetry i r ch read).All fun op => quiet op = true := by
  have hrefuse (code : String) {β : Type} : (refuse code : Service β).All fun op => quiet op = true := trivial
  unfold Service.authoriseRetry
  refine Program.All.bind ?_ fun _ => Program.All.bind ?_ fun p => ⟨rfl,fun x => ?_⟩
  · refine ⟨rfl,fun answer => ?_⟩
    cases answer <;> trivial
  · unfold Service.recoveryRequest
    refine Program.All.bind ⟨rfl,fun answer => ?_⟩ fun c => ?_
    · cases answer <;> trivial
    · repeat' split
      all_goals trivial
  · cases x <;> trivial

/-- A refusal on the way to the dispatch settles the attempt as one. -/
theorem ends_refusingRetry {ch : ChangeColumns} {n : ℕ} {read : ReadBack} {k : MutationRequest → Service α} (hh : Held i r w)
    (hs : Standing i r w s.world (AttemptColumns.seen i n read)) (hf : Faithful r w s.sent s.readings)
    (h : ∀ m v, Authorises i r w ch n read s (.ok m) (v,true) → Ends i (k m) (Owed i r w) v true) :
    Ends i (Service.refusingRetry r (Service.authoriseRetry i r ch read) >>= k) (Owed i r w) s true := by
  refine ends_bind (Program.Always.fallible_tryCatch ?_ ?_)
  · exact (authoriseRetry_quiet ch read).mono fun op hop b _ e => quiet_answers hop b e
  · refine (ends_authoriseRetry hh hs).mono fun x v hx => ?_
    cases x with
    | ok m =>
      obtain ⟨v,kept⟩ := v
      obtain ⟨rfl,_⟩ := id hx
      exact h m v hx
    | error e =>
      obtain ⟨⟨code,rfl⟩,rfl⟩ := hx
      exact ends_refuseRecovery hh hs hf code (AttemptColumns.check_refused code) fun v hv => iff_of_true hv rfl

/-- Nothing sent is faithful, whatever was read. -/
theorem Faithful.silent (readings : List Observed) : Faithful r w [] readings :=
  ⟨fun _ _ _ _ _ => rfl,fun _ h => absurd h (by simp)⟩

/-- The retry from the attempt it has opened to its end. -/
theorem ends_attempt {run : RunRecord} {ch : ChangeColumns} {n : ℕ} (hh : Held i r w) (hrun : run.id = r)
    (hpreview : run.preview = (w.files r).rows.preview) (hch : (w.files r).rows.change = some ch)
    (hplanned : (w.files r).preview.change = ch.planned)
    (hs : Standing i r w s.world (.fresh i .retry n)) (hsent : s.sent = []) (hread : s.readings = []) :
    Ends i (do
      let read ← Service.readBack run (appliedExpectation ch)
      commit r (.recordEvidence read)
      if read.outcome.proved then Service.completeRecovery r .proven
      else
        Service.requireTarget r
        let mutation ← Service.refusingRetry r (Service.authoriseRetry i r ch read)
        let report ← ask (.mutate r mutation)
        commit r (.recordRecovery report.outcome)
        if report.outcome ≠ .written then Service.settleRetry r (recoveryOutcomeFor report.outcome .notAttempted)
        else
          let verified ← Service.readBack run (appliedExpectation ch)
          commit r (.recordRecoveryVerification verified)
          let outcome := recoveryOutcomeFor .written verified.outcome
          if outcome = .verified then Service.completeRecovery r outcome else Service.settleRetry r outcome) (Owed i r w) s true := by
  subst hrun
  refine ends_observe hs.owed fun observed => ?_
  have hkept : (true && decide (s.readings ≠ [] → s.verdict run.id observed ≠ some .notAttempted)) = true := by simp [hread]
  rw [hkept]
  obtain ⟨read,hback⟩ : ∃ read, judge run.preview (appliedExpectation ch) observed = read := ⟨_,rfl⟩
  have hobserved : read.outcome = .verified → read.observation.isSome = true := hback ▸ Service.judge_observed _ _ _
  change Ends i (.act (.commit run.id (.recordEvidence (judge run.preview (appliedExpectation ch) observed))) _) _ _ _
  rw [hback]
  refine ends_record (s := ⟨s.world,s.sent,s.readings ++ [observed]⟩) hh hs (.recordEvidence read)
    (fun a => { a with evidence := read.outcome, evidenceObservation := read.observation }) (fun _ _ => rfl) (fun _ => rfl) rfl
    AttemptColumns.check_seen rfl rfl (fun _ => rfl) fun v hv => ?_
  have hfaithful : Faithful run.id w s.sent (s.readings ++ [observed]) := hsent ▸ Faithful.silent _
  change Ends i (if read.outcome.proved then _ else _) _ _ _
  by_cases hproved : read.outcome = .verified
  · rw [if_pos (by simp [VerificationOutcome.proved,hproved])]
    exact ends_completeRecovery hh hv hfaithful (AttemptColumns.check_proven hproved (hobserved hproved)) (.inl rfl)
  rw [if_neg (by simp [VerificationOutcome.proved,hproved])]
  refine ends_target ?_ ?_
  · refine ends_refusingRetry (s := ⟨v,s.sent,s.readings ++ [observed]⟩) hh hv hfaithful fun m u hm => ?_
    obtain ⟨_,hsent',hread',⟨g,c,hdispatched⟩,hasked⟩ := hm
    have hfirst : (judge (w.files run.id).preview (appliedExpectation ch) observed).outcome.proved = false := by
      have hsame : (w.files run.id).preview = run.preview := hpreview.symm
      rw [hsame,hback]
      simp [VerificationOutcome.proved,hproved]
    have hsends : sends u.world run.id m = ⟨(w.files run.id).object,wanted ch.planned⟩ := by
      have hobject : (u.world.files run.id).object = (w.files run.id).object := hdispatched.object
      have hsame : (u.world.files run.id).preview = (w.files run.id).preview := hdispatched.preview
      have hwants := hasked u.world (by rw [hsame,hplanned])
      rw [← hobject,← hwants]
      rfl
    exact ends_dispatch hh rfl hpreview hch hsends hdispatched (hsent'.trans hsent) (hread'.trans (by simp [hread])) hfirst
  · have hmissing : (true && decide (s.readings ++ [observed] = [])) = false := by simp
    rw [hmissing]
    exact ends_ret (x := .error (.refused "object_not_found")) (Standing.owed (s := ⟨v,s.sent,s.readings ++ [observed]⟩) hv)

end Stages

section Entry

variable {i : RequestId} {r : RunId} {w : World} {a : AttemptColumns} {s : Session}

/-- What a request relies on when it is received: it opened nothing yet, and the change is the one its plan published. -/
structure Received (i : RequestId) (r : RunId) (w : World) : Prop where
  listed : r ∈ w.runs
  unopened : ∀ b ∈ (w.files r).rows.attempts, b.openedBy ≠ i
  planned : ∀ ch, (w.files r).rows.change = some ch → (w.files r).preview.change = ch.planned

/-- A request that opened nothing owes nothing. -/
theorem Received.idle (h : Received i r w) : Disciplined i r w ⟨w,[],[]⟩ where
  toFaithful := Faithful.silent []
  settled b hb hi := absurd hi (h.unopened b hb)
  released hlocked := by
    constructor
    · intro hnone
      rw [Option.isNone_iff_eq_none.mp hnone] at hlocked
      cases hlocked
    · rintro ⟨b,hb,hi,_⟩
      exact absurd hi (h.unopened b hb)

theorem Received.ends_refused (h : Received i r w) (e : Error) :
    Ends i (.ret (.error e) : Service Response) (Owed i r w) ⟨w,[],[]⟩ true := iff_of_true h.idle rfl

/-- Opening the attempt: the hold was open and the row stands, or nothing happened. -/
theorem openAttempt_cases (h : Received i r w) : (∃ e, w.commit i r .openAttempt = (.error e,w)) ∨
    ∃ f n, w.commit i r .openAttempt = (.ok (),w.setFile r f) ∧ Held i r w ∧
      Standing i r w (w.setFile r f) (.fresh i .retry n) := by
  cases hrun : Commit.openAttempt.run i (w.isLocked r) (w.files r) with
  | error e =>
    left
    exact ⟨e,by rw [World.commit,if_pos h.listed,hrun]⟩
  | ok f =>
    right
    obtain ⟨hopen,hrows⟩ := Commit.run_ok hrun
    obtain ⟨_,hfree,_⟩ := RunFile.bind_ok (show (w.files r).openAttempt i (w.isLocked r) = .ok f from hrun)
    have hstill := RunFile.still_of_openHold hfree
    have hunreleased := RunFile.unreleased_of_openHold hopen
    have hfile : (w.setFile r f).files r = f := by simp [World.setFile]
    refine ⟨f,(w.files r).rows.attempts.length + 1,commit_accepted h.listed hrun,?_,?_⟩
    · exact ⟨h.listed,fun b hb => ⟨h.unopened b hb,hstill b hb,hunreleased b hb⟩,hopen⟩
    · exact {
        listed := h.listed
        object := by rw [hfile,hrows]; rfl
        preview := by rw [hfile,hrows]; rfl
        change := by rw [hfile,hrows]; rfl
        attempts := by rw [hfile,hrows]; rfl
        own := rfl
        moving := rfl
        authorised := rfl
        lock := rfl }

/-- A check that asks nobody goes on or refuses. -/
theorem Received.ends_check (h : Received i r w) {p : Service Unit} {k : Unit → Service Response}
    (hp : p = .ret (.ok ()) ∨ ∃ code, p = refuse code) (hk : Ends i (k ()) (Owed i r w) ⟨w,[],[]⟩ true) :
    Ends i (p >>= k) (Owed i r w) ⟨w,[],[]⟩ true := by
  rcases hp with rfl | ⟨code,rfl⟩
  · exact hk
  · exact h.ends_refused (.refused code)

theorem Received.ends (h : Received i r w) : Ends i (Service.recoveryRetry i r) (Owed i r w) ⟨w,[],[]⟩ true := by
  refine ends_quiet (.change r) rfl fun o => ?_
  simp only [World.perform]
  cases hch : (w.files r).change with
  | none => exact h.ends_refused _
  | some ch =>
  have hrow : (w.files r).rows.change = some ch.1 := congrArg (Option.map _) hch
  refine ends_quiet (.run r) rfl fun o => ?_
  refine h.ends_check (p := Service.requireExecutor (w.record r)) ?_ ?_
  · unfold Service.requireExecutor
    split
    · exact .inl rfl
    · exact .inr ⟨_,rfl⟩
  refine ends_quiet (.hold r) rfl fun o => ?_
  simp only [World.perform]
  cases (w.files r).requireOpenHold (w.isLocked r) none with
  | error e => exact h.ends_refused e
  | ok _ =>
  refine ends_target ?_ ?_
  · refine h.ends_check (p := Service.requireExecutablePreview (w.record r)) ?_ ?_
    · unfold Service.requireExecutablePreview
      split
      · exact .inl rfl
      · exact .inr ⟨_,rfl⟩
    refine ends_quiet (.replan r) rfl fun o => ?_
    simp only [World.perform]
    cases o.refusal with
    | some code => exact h.ends_refused _
    | none =>
    rcases openAttempt_cases h with ⟨e,hcommit⟩ | ⟨f,n,hcommit,hheld,hstanding⟩
    · refine ends_unraised hcommit rfl ?_
      cases e with
      | refused code => exact h.ends_refused _
      | integrity => exact h.ends_refused _
      | assertion => exact h.ends_refused _
    · exact ends_unraised hcommit rfl (ends_attempt hheld rfl rfl hrow (h.planned _ hrow) hstanding rfl rfl)
  · exact h.ends_refused _

end Entry

theorem received {c : engine.Config} (hc : Reach .free c) {r : RunId} {i : RequestId} {w : World}
    (he : World.enter (.recoveryRetry r) c.world = some (i,w)) : Received i r w := by
  have hbound := ((entering_sound.holds hc).1 r).2
  have hcoherent := World.Inv.coherent (protocol_sound.holds hc).1 r
  simp only [World.enter,Request.run?] at he
  split at he
  · next hserving =>
    cases he
    refine ⟨hserving.2,fun b hb hopened => ?_,fun ch hch => (hcoherent.planned ch hch).1.symm⟩
    have hmem : b.openedBy ∈ World.openers c.world r := List.mem_map_of_mem hb
    have hlt := hbound _ hmem
    rw [hopened] at hlt
    exact Nat.lt_irrefl _ hlt
  · cases he

/-- What one retry of the Run leaves. -/
def retried (i : RequestId) (r : RunId) (w : World) (oracle : ℕ → Behaviour) : Session :=
  ((Service.recoveryRetry i r).fallible.exec (Session.perform i) oracle ⟨w,[],[]⟩).2

/-- On these answers nothing disturbs it. -/
def Unhindered (i : RequestId) (r : RunId) (w : World) (oracle : ℕ → Behaviour) : Prop :=
  (Service.recoveryRetry i r).fallible.Within (Session.perform i) Undisturbed oracle ⟨w,[],[]⟩

instance (i : RequestId) (r : RunId) (w : World) (oracle : ℕ → Behaviour) : Decidable (Unhindered i r w oracle) :=
  Program.decidableWithin (S := signature.faulty Error) (Session.perform i) Undisturbed _ oracle _

/-- Whatever the executor does, a retry received in any world a run may leave keeps its discipline exactly where
no executor raises and, after its first reading, the target is found and every reading judged. -/
theorem disciplined_iff_unhindered {c : engine.Config} (hc : Reach .free c) {r : RunId} {i : RequestId} {w : World}
    (he : World.enter (.recoveryRetry r) c.world = some (i,w)) (oracle : ℕ → Behaviour) :
    Disciplined i r w (retried i r w oracle) ↔ Unhindered i r w oracle :=
  Program.within_iff (Q := fun _ s => Disciplined i r w s) (received hc he).ends oracle

/-- The target holds the old value, and the mutation lands. -/
def obliging : ℕ → Behaviour := fun n => { outside := reading (if n < 13 then 1500 else 9000) }

theorem obliging_disciplined : ∃ (c : engine.Config) (w : World), World.enter (.recoveryRetry 0) c.world = some (4,w) ∧
    (retried 4 0 w obliging).sent = [⟨0,.value 9000⟩] ∧ Disciplined 4 0 w (retried 4 0 w obliging) := by
  obtain ⟨c,hc,hp⟩ := exists_of_play mtuWorld_initial retryGranted (fun c =>
    (World.enter (.recoveryRetry 0) c.world).any fun e : RequestId × World =>
    decide (e.1 = 4) && decide ((retried 4 0 e.2 obliging).sent = [⟨0,.value 9000⟩]) &&
      decide (Unhindered 4 0 e.2 obliging)) (by decide +kernel)
  obtain ⟨⟨i,w⟩,he,hp⟩ := (Option.any_eq_true ..).mp hp
  simp only [Bool.and_eq_true,decide_eq_true_eq] at hp
  obtain ⟨⟨rfl,hsent⟩,hwithin⟩ := hp
  exact ⟨c,w,he,hsent,(disciplined_iff_unhindered hc he obliging).mpr hwithin⟩

/-- An executor of a field change that is given this answer of the agent. -/
def answering (answer : Except LineProtocol.CallError LineProtocol.Fields) : Behaviour :=
  match Chain.report answer with
  | some report => { outside := { outcome := report.outcome } }
  | none => { raises := true }

/-- The target is gone when it is looked for after the first reading. -/
def losing : ℕ → Behaviour := fun n => { outside := { reading 1500 with target := n < 8 } }

/-- The agent answers the dispatch with a mutation that is a list. -/
def listing : ℕ → Behaviour := fun n =>
  if n = 12 then answering (.ok [("mutation",.arr [.num 1])]) else { outside := reading 1500 }

theorem retry_left_underway : ∃ (c : engine.Config) (w : World), Reach .free c ∧
    World.enter (.recoveryRetry 0) c.world = some (4,w) ∧ ¬Disciplined 4 0 w (retried 4 0 w losing) ∧
      ¬Disciplined 4 0 w (retried 4 0 w listing) := by
  have hunderway {w : World} {s : Session}
      (h : ((s.world.files 0).rows.attempts.any fun a => decide (a.openedBy = 4) && decide (a.outcome = .inFlight)) = true) :
      ¬Disciplined 4 0 w s := by
    intro hd
    obtain ⟨a,ha,hflight⟩ := List.any_eq_true.mp h
    simp only [Bool.and_eq_true,decide_eq_true_eq] at hflight
    exact hd.settled a ha hflight.1 hflight.2
  obtain ⟨c,hc,hp⟩ := exists_of_play mtuWorld_initial retryGranted (fun c =>
    (World.enter (.recoveryRetry 0) c.world).any fun e : RequestId × World =>
    decide (e.1 = 4) && (((retried 4 0 e.2 losing).world.files 0).rows.attempts.any fun a =>
        decide (a.openedBy = 4) && decide (a.outcome = .inFlight)) &&
      (((retried 4 0 e.2 listing).world.files 0).rows.attempts.any fun a =>
        decide (a.openedBy = 4) && decide (a.outcome = .inFlight))) (by decide +kernel)
  obtain ⟨⟨i,w⟩,he,hp⟩ := (Option.any_eq_true ..).mp hp
  simp only [Bool.and_eq_true,decide_eq_true_eq] at hp
  obtain ⟨⟨rfl,hlosing⟩,hlisting⟩ := hp
  exact ⟨c,w,hc,he,hunderway hlosing,hunderway hlisting⟩

end Retrying
end LocalPlane
