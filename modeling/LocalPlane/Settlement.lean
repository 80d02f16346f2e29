import LocalPlane.Alone
import LocalPlane.DispatchRecord

/-!
# One Run while it is settled

What a restart does to a Run it settles depends on that Run's rows alone. The commits a
settlement makes are refused only by a CHECK on what they would leave, or by a guard that
is settled already.
-/

set_option linter.dupNamespace false

namespace LocalPlane

open Interleaved

namespace Commit

variable {i : RequestId} {locked : Bool} {f : RunFile} {c : Commit}

/-- The commits a settlement is made of. -/
def settles : Commit → Bool
  | .settleGuard _ | .startLapse _ | .recordReversal .. | .startRollbackVerification _
  | .recordRollbackVerification _ | .admitRecovery | .finish .. | .interruptDispatch _ => true
  | _ => false

/-- The store accepts what the commit leaves. -/
def Accepted (i : RequestId) (x : Rows) (c : Commit) : Prop :=
  (∀ report, c = .settleGuard report → ∀ g, x.guard = some g → g.settled = none) ∧ (c.rows i x).Checked

theorem step_accepted {s : Step} (hrun : (f.stepColumns s).check = true)
    (hchange : ∀ ch, f.rows.change.map (s.change.getD id) = some ch → ch.check = true) : ∃ f', f.step i s = .ok f' := by
  have hset : f.setRun (f.stepColumns s) = .ok { f with run := ⟨f.stepColumns s,hrun⟩ } := dif_pos hrun
  have hmoved : ∃ g, { f with run := ⟨f.stepColumns s,hrun⟩ }.stepChange s = .ok g := by
    unfold RunFile.stepChange
    split
    · next update change hu hch =>
      have hcheck : (update change.1).check = true := hchange _ (by
        have hch : f.change = some change := hch
        simp [RunFile.rows,hch,hu])
      exact ⟨_,dif_pos hcheck⟩
    · exact ⟨_,rfl⟩
  obtain ⟨g,hg⟩ := hmoved
  exact ⟨g.append i s.event s.stateFrom s.state,by rw [RunFile.step,hset]; simp only [bind,Except.bind,hg]; rfl⟩

theorem settleGuard_accepted {report : GuardReport} (hopen : ∀ g, f.rows.guard = some g → g.settled = none)
    (hguard : ∀ g, (Commit.rows i f.rows (.settleGuard report)).guard = some g → g.check = true) :
    ∃ f', f.settleGuard i report = .ok f' := by
  have hupdate : ∃ g, f.updateGuard (fun g => { g with
      settled := some report.phase
      fired := g.fired || report.reversal.isSome
      reversalOutcome := if report.reversal.isSome then report.reversal else g.reversalOutcome }) = .ok g := by
    unfold RunFile.updateGuard
    split
    · exact ⟨_,rfl⟩
    · next guard hg =>
      have hrow : f.rows.guard = some guard.1 := congrArg (Option.map _) hg
      have hany : f.guard.any (·.1.settled.isSome) = false := by simp [hg,hopen _ hrow]
      have hcheck := hguard _ (congrArg (Option.map _) hrow)
      refine ⟨{ f with guard := some ⟨_,hcheck⟩ },?_⟩
      unfold RunFile.setGuard
      rw [hany,if_neg (by simp)]
      exact dif_pos hcheck
  obtain ⟨g,hg⟩ := hupdate
  exact ⟨g.note i .guardSettled,by rw [RunFile.settleGuard,hg]; rfl⟩

theorem run_of_accepted (hc : c.settles) (h : c.Accepted i f.rows) : ∃ f', c.run i locked f = .ok f' := by
  obtain ⟨hopen,hrun,hguard,hchange,_⟩ := h
  cases c with
  | settleGuard report => exact settleGuard_accepted (hopen report rfl) hguard
  | startLapse seen => exact step_accepted hrun hchange
  | recordReversal attempt outcome => exact step_accepted hrun hchange
  | startRollbackVerification seen =>
    exact step_accepted hrun fun ch hch => hchange ch (show f.rows.change = some ch by simpa using hch)
  | recordRollbackVerification read => exact step_accepted hrun hchange
  | admitRecovery =>
    exact step_accepted hrun fun ch hch => hchange ch (show f.rows.change = some ch by simpa using hch)
  | finish seen effect state result reason => exact step_accepted hrun hchange
  | interruptDispatch outcome => exact step_accepted hrun hchange
  | _ => cases hc

/-- What the store refuses is not accepted. -/
theorem accepted_of_run {f' : RunFile} (hc : c.settles) (h : c.run i locked f = .ok f') : c.Accepted i f.rows := by
  obtain ⟨hreq,hrows⟩ := Commit.run_ok h
  refine ⟨fun report he => ?_,hrows ▸ f'.rows_checked⟩
  subst he
  exact hreq

end Commit
/-- One Run seen on its own: its rows and its lock. A commit goes through exactly when the store
accepts what it leaves, and a status report is any the holder can return. -/
def alone (i : RequestId) (r : RunId) (reported : GuardReport → Rows → Prop) : View signature where
  State := Rows × Option LockKey
  fits
    | .commit r' c,_ => r' = r ∧ c.settles
    | .run r',_ | .change r',_ | .checkpoint r',_ | .guardStatus r',_ | .observe r',_ => r' = r
    | _,_ => False
  answers
    | .run _,s,answer => answer = ⟨r,s.1.object,s.1.supported,s.1.preview,s.1.state⟩
    | .change _,s,answer => answer = s.1.change
    | .checkpoint _,s,answer => answer = s.1.checkpoint
    | .guardStatus _,s,report => reported report s.1
    | .commit _ c,s,answer => answer = .ok () ↔ c.Accepted i s.1
    | _,_,_ => True
  after
    | .commit _ c,s,.ok _ => (c.rows i s.1,if c.releases then none else s.2)
    | .guardStatus _,s,report => ({ s.1 with journal := .guardStatus i report :: s.1.journal },s.2)
    | _,s,_ => s

namespace World

/-- What happens outside comes before the operation. -/
def happen (w : World) (events : List External) : World := events.foldl (fun w e => (outer e w).getD w) w

/-- One operation of a request nobody runs beside, with what the outside does before it. -/
def unattended (i : RequestId) (op : Op) (outside : List External × Outside) (w : World) : op.Ret × World :=
  perform i op outside.2 (w.happen outside.1)

/-- The world shows these rows and this lock of the Run, and of the other Runs what the base does. -/
structure Shows (base : World) (r : RunId) (w : World) (s : Rows × Option LockKey) : Prop where
  runs : w.runs = base.runs
  listed : r ∈ w.runs
  rows : ∃ journal, (w.files r).rows = { s.1 with journal } ∧ ∀ call ∈ s.1.journal, call ∈ journal
  lock : w.locks.forRun r = s.2
  others : ∀ r', r' ≠ r → (∃ journal, (w.files r').rows = { (base.files r').rows with journal } ∧
    ∀ call ∈ (base.files r').rows.journal, call ∈ journal) ∧ w.locks.forRun r' = base.locks.forRun r'

variable {w w' base : World} {i : RequestId} {r : RunId} {s : Rows × Option LockKey}

/-- What a world shows of a listed Run is what it holds. -/
theorem Shows.self (hr : r ∈ w.runs) : Shows w r w ((w.files r).rows,w.locks.forRun r) where
  runs := rfl
  listed := hr
  rows := ⟨_,rfl,fun _ hc => hc⟩
  lock := rfl
  others _ _ := ⟨⟨_,rfl,fun _ hc => hc⟩,rfl⟩

theorem Heard.trans {caller : Option RequestId} {u v w : World} (h : Heard caller u v) (h' : Heard caller v w) :
    Heard caller u w where
  runs := h'.runs.trans h.runs
  requests := h'.requests.trans h.requests
  phase := h'.phase.trans h.phase
  locks := h'.locks.trans h.locks
  rows r := by
    obtain ⟨new,hn,hc⟩ := h.rows r
    obtain ⟨new',hn',hc'⟩ := h'.rows r
    refine ⟨new' ++ new,by rw [hn',hn,List.append_assoc],fun call hcall => ?_⟩
    rcases List.mem_append.mp hcall with hm | hm
    · exact hc' call hm
    · exact hc call hm

theorem heard_happen (events : List External) : Heard none w (w.happen events) := by
  induction events generalizing w with
  | nil => exact heard_refl rfl rfl rfl rfl rfl
  | cons e events ih =>
    have hone : Heard none w ((outer e w).getD w) := by
      cases he : outer e w with
      | none => exact heard_refl rfl rfl rfl rfl rfl
      | some v => exact outer_heard he
    exact hone.trans ih

theorem Shows.heard {caller : Option RequestId} (h : Shows base r w s) (hw : Heard caller w w') : Shows base r w' s := by
  have hmore : ∀ {x y : Rows} {new : List Call}, (∃ journal, y = { x with journal } ∧ ∀ call ∈ x.journal, call ∈ journal) →
      ∃ journal, { y with journal := new ++ y.journal } = { x with journal } ∧ ∀ call ∈ x.journal, call ∈ journal := by
    rintro x y new ⟨journal,rfl,hj⟩
    exact ⟨new ++ journal,rfl,fun call hc => List.mem_append_right _ (hj call hc)⟩
  exact {
    runs := hw.runs.trans h.runs
    listed := hw.runs ▸ h.listed
    rows := by
      obtain ⟨new,hn,_⟩ := hw.rows r
      rw [hn]
      exact hmore h.rows
    lock := by rw [hw.locks]; exact h.lock
    others := fun r' hr => by
      obtain ⟨new,hn,_⟩ := hw.rows r'
      rw [hn,hw.locks]
      exact ⟨hmore (h.others r' hr).1,(h.others r' hr).2⟩ }

theorem Shows.record_eq (h : Shows base r w s) :
    w.record r = ⟨r,s.1.object,s.1.supported,s.1.preview,s.1.state⟩ := by
  obtain ⟨journal,hrows,_⟩ := h.rows
  have hobject : (w.files r).object = s.1.object := congrArg Rows.object hrows
  have hsupported : (w.files r).supported = s.1.supported := congrArg Rows.supported hrows
  have hpreview : (w.files r).preview = s.1.preview := congrArg Rows.preview hrows
  have hstate : (w.files r).state = s.1.state := congrArg Rows.state hrows
  rw [World.record,hobject,hsupported,hpreview,hstate]

theorem commit_done {c : Commit} {f : RunFile} (hr : r ∈ w.runs) (hf : c.run i (w.isLocked r) (w.files r) = .ok f) :
    (w.commit i r c).1 = .ok () := by
  rw [World.commit,if_pos hr,hf]

theorem accepted_journal {c : Commit} (hc : c.settles) (x : Rows) (journal : List Call) :
    (c.Accepted i { x with journal } ↔ c.Accepted i x) ∧ c.rows i { x with journal } = { c.rows i x with journal } := by
  have hrows : c.rows i { x with journal } = { c.rows i x with journal } := by
    cases c <;> first | rfl | cases hc
  refine ⟨?_,hrows⟩
  unfold Commit.Accepted
  rw [hrows]
  refine and_congr Iff.rfl ⟨fun h => ?_,fun h => ?_⟩
  · exact { h with }
  · exact { h with }

theorem Shows.commit (h : Shows base r w s) {c : Commit} (hc : c.settles) :
    ((w.commit i r c).1 = .ok () ↔ c.Accepted i s.1) ∧
      Shows base r (w.commit i r c).2 ((alone i r fun _ _ => True).after (.commit r c) s (w.commit i r c).1) := by
  obtain ⟨journal,hrows,hj⟩ := h.rows
  have hsame : c.Accepted i (w.files r).rows ↔ c.Accepted i s.1 := by rw [hrows]; exact (accepted_journal hc s.1 journal).1
  rcases commit_cases w i r c with ⟨e,he⟩ | ⟨f,hr,hf,he⟩
  · rw [he]
    have hrefused : ¬c.Accepted i s.1 := fun ha => by
      obtain ⟨f,hf⟩ := Commit.run_of_accepted hc (hsame.mpr ha)
      have hdone := commit_done h.listed hf
      rw [he] at hdone
      cases hdone
    exact ⟨⟨fun hno => absurd hno (by simp),fun ha => absurd ha hrefused⟩,h⟩
  · rw [he]
    refine ⟨⟨fun _ => hsame.mp (Commit.accepted_of_run hc hf),fun _ => rfl⟩,?_⟩
    have hlocks : ∀ r', (if c.releases then w.locks.release r else w.locks).forRun r' =
        if r' = r then (if c.releases then none else w.locks.forRun r) else w.locks.forRun r' := by
      intro r'
      rcases eq_or_ne r' r with rfl | hr'
      · rw [if_pos rfl]
        split <;> simp
      · rw [if_neg hr']
        split <;> simp [hr']
    exact {
      runs := h.runs
      listed := h.listed
      rows := by
        show ∃ journal', ((w.setFile r f).files r).rows = { c.rows i s.1 with journal := journal' } ∧ _
        rw [rows_setFile,if_pos rfl,(Commit.run_ok hf).2,hrows,(accepted_journal hc s.1 journal).2]
        refine ⟨journal,rfl,fun call hcall => hj call ?_⟩
        have hsame : (c.rows i s.1).journal = s.1.journal := Commit.rows_frame.2.2.2.1
        exact hsame ▸ hcall
      lock := by
        show (if c.releases then w.locks.release r else w.locks).forRun r = if c.releases then none else s.2
        rw [hlocks,if_pos rfl,h.lock]
      others := fun r' hr' => by
        show (∃ journal', ((w.setFile r f).files r').rows = _ ∧ _) ∧
          (if c.releases then w.locks.release r else w.locks).forRun r' = _
        rw [rows_setFile,if_neg hr',hlocks,if_neg hr']
        exact h.others r' hr' }

theorem Shows.logged (h : Shows base r w s) (call : Call) :
    Shows base r (w.log r call) ({ s.1 with journal := call :: s.1.journal },s.2) where
  runs := h.runs
  listed := h.listed
  rows := by
    obtain ⟨journal,hrows,hj⟩ := h.rows
    rw [rows_log,if_pos rfl,hrows]
    refine ⟨call :: journal,rfl,fun other hc => ?_⟩
    rcases List.mem_cons.mp hc with rfl | hc
    · exact List.mem_cons_self
    · exact List.mem_cons_of_mem _ (hj other hc)
  lock := h.lock
  others r' hr' := by
    rw [rows_log,if_neg hr']
    exact h.others r' hr'

/-- A lone request's operation on its Run answers and leaves what the Run seen on its own does. -/
theorem Shows.unattended {reported : GuardReport → Rows → Prop} (h : Shows base r w s) {op : Op}
    (o : List External × Outside) (hf : (alone i r reported).fits op s)
    (hr : op = .guardStatus r → reported ((w.happen o.1).guardStatus i r o.2.delivery).1 s.1) :
    (alone i r reported).answers op s (unattended i op o w).1 ∧
      Shows base r (unattended i op o w).2 ((alone i r reported).after op s (unattended i op o w).1) := by
  have hthen := h.heard (heard_happen o.1)
  cases op with
  | run r' =>
    obtain rfl : r' = r := hf
    exact ⟨hthen.record_eq,hthen⟩
  | change r' =>
    obtain rfl : r' = r := hf
    obtain ⟨journal,hrows,_⟩ := hthen.rows
    exact ⟨congrArg Rows.change hrows,hthen⟩
  | checkpoint r' =>
    obtain rfl : r' = r := hf
    obtain ⟨journal,hrows,_⟩ := hthen.rows
    exact ⟨congrArg Rows.checkpoint hrows,hthen⟩
  | observe r' => exact ⟨trivial,hthen⟩
  | commit r' c =>
    obtain ⟨rfl,hc⟩ := hf
    exact hthen.commit hc
  | guardStatus r' =>
    obtain rfl : r' = r := hf
    exact ⟨hr rfl,hthen.logged _⟩
  | _ => cases hf

end World
end LocalPlane
