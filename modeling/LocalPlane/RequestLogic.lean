import LocalPlane.ProtocolLaws

/-!
# A program logic for requests

A request that is being served works on the rows of one Run. Its assertions are about
those rows, must survive what others may do to them, and are carried through its
program one operation at a time.
-/

set_option linter.dupNamespace false

namespace LocalPlane

open Interleaved.Contract

/-- The Run a request is about, with the columns no transaction moves. -/
structure Subject where
  id : RunId
  object : ObjectId
  supported : Bool
  preview : Preview

/-- Coherent rows of that Run. -/
structure Subject.Fits (s : Subject) (x : Rows) : Prop where
  coherent : x.Coherent
  object : x.object = s.object
  supported : x.supported = s.supported
  preview : x.preview = s.preview

/-- What a read of the Run's row returned, where it cannot have changed since. -/
structure RunRecord.Of (run : RunRecord) (s : Subject) : Prop where
  id : run.id = s.id
  object : run.object = s.object
  supported : run.supported = s.supported
  preview : run.preview = s.preview

/-- Who runs the program: the request, the Runs the store lists, whether it runs alone, and what
it then knows of the other Runs. -/
structure Caller where
  request : Request
  runs : List RunId
  alone : Prop
  others : RunId → Rows

/-- Request `i` is `q` and running, and the rows of its Run satisfy `P`. -/
structure Serving (q : Caller) (i : RequestId) (s : Subject) (P : Rows → Prop) (w : World) : Prop where
  mode : w.phase = .serving ∧ ¬q.alone ∨ w.phase = .starting i ∧ q.alone
  asked : w.requests[i]? = some q.request
  runs : w.runs = q.runs
  listed : s.id ∈ w.runs
  object : (w.files s.id).object = s.object
  supported : (w.files s.id).supported = s.supported
  preview : (w.files s.id).preview = s.preview
  apart : q.alone → ∀ r, r ≠ s.id → Rows.Idle i (q.others r) (w.files r).rows
  holds : P (w.files s.id).rows

/-- Others do not falsify it. -/
def Caller.Stable (q : Caller) (i : RequestId) (P : Rows → Prop) : Prop :=
  ∀ {x x'}, Rows.Rely i x x' → (q.alone → Rows.Idle i x x') → P x → P x'

def Serves (q : Caller) (i : RequestId) (s : Subject) (P : Rows → Prop) {α : Type} (p : Service α)
    (Q : Except Error α → Rows → Prop) : Prop :=
  protocol.Triple i (Serving q i s P) p fun x => Serving q i s (Q x)

variable {q : Caller} {i : RequestId} {s : Subject} {P P' : Rows → Prop} {α β : Type} {p : Service α}
  {Q Q' : Except Error α → Rows → Prop}

namespace Serving

variable {w w' : World}

theorem asked_lt (h : Serving q i s P w) : i < w.requests.length := (List.getElem?_eq_some_iff.mp h.asked).1

theorem fits (h : Serving q i s P w) (hI : World.Inv w) : s.Fits (w.files s.id).rows :=
  ⟨hI.coherent s.id,h.object,h.supported,h.preview⟩

theorem active (h : Serving q i s P w) : w.phase = .serving ∨ w.phase = .starting i :=
  h.mode.imp And.left And.left

theorem starting_iff (h : Serving q i s P w) : (w.phase = .starting i) = q.alone := by
  rcases h.mode with ⟨hp,ha⟩ | ⟨hp,ha⟩
  · simp [hp,ha]
  · simp [hp,ha]

theorem stable (hP : q.Stable i P) : protocol.Stable i (Serving q i s P) := by
  intro w w' hr h
  have hasked : w'.requests[i]? = some q.request := by
    obtain ⟨t,ht⟩ := hr.requests
    rw [← ht,List.getElem?_append_left h.asked_lt]
    exact h.asked
  rcases h.mode with ⟨hp,ha⟩ | ⟨hp,ha⟩
  · obtain ⟨hup,hx⟩ := hr.serving hp
    have hs := hx s.id
    exact ⟨.inl ⟨hup,ha⟩,hasked,hr.runs.trans h.runs,hr.runs ▸ h.listed,hs.object.trans h.object,hs.supported.trans h.supported,
      hs.preview.trans h.preview,fun h => absurd h ha,hP hs (fun h => absurd h ha) h.holds⟩
  · obtain ⟨hup,_,hx⟩ := hr.alone hp
    have hs := (hx s.id).rely
    exact ⟨.inr ⟨hup,ha⟩,hasked,hr.runs.trans h.runs,hr.runs ▸ h.listed,hs.object.trans h.object,hs.supported.trans h.supported,
      hs.preview.trans h.preview,fun _ r hr => (h.apart ha r hr).trans (hx r),hP hs (fun _ => hx s.id) h.holds⟩

end Serving

/-- Operations that touch the rows of no other Run. -/
def Op.About (r : RunId) : Op → Prop
  | .acquire r' | .commit r' _ | .mutate r' _ | .armGuard r' _ | .disarmGuard r' | .guardStatus r' => r' = r
  | .unsettledGuards | .unsettledChanges | .unsettledAttempts | .serve => False
  | _ => True

namespace World

variable {w : World} {op : Op} {r : RunId}

theorem files_log (w : World) {r run : RunId} (call : Call) (h : run ≠ r) :
    (w.log r call).files run = w.files run := by simp [log,setFile,h]

theorem perform_other (h : op.About r) (out : Outside) {run : RunId} (hr : run ≠ r) :
    (perform i op out w).2.files run = w.files run := by
  cases op with
  | commit r' c =>
    cases h
    simp only [perform]
    rcases commit_cases w i r c with ⟨e,he⟩ | ⟨f,_,_,he⟩
    · rw [he]
    · rw [he]; simp [setFile,hr]
  | acquire r' =>
    simp only [perform,acquire]
    repeat' split
    all_goals rfl
  | mutate r' m =>
    cases h
    simp only [perform,mutate]
    split
    · split <;> exact files_log w _ hr
    · exact files_log w _ hr
  | armGuard r' guard =>
    cases h
    simp only [perform,armGuard]
    repeat' split
    all_goals exact files_log w _ hr
  | disarmGuard r' =>
    cases h
    simp only [perform,disarmGuard]
    split <;> exact files_log w _ hr
  | guardStatus r' => cases h; exact files_log w _ hr
  | unsettledGuards => cases h
  | unsettledChanges => cases h
  | unsettledAttempts => cases h
  | serve => cases h
  | _ => rfl

/-- What a Run is about never changes. -/
theorem perform_frame (op : Op) (out : Outside) (w : World) (r : RunId) :
    ((perform i op out w).2.files r).object = (w.files r).object ∧
      ((perform i op out w).2.files r).supported = (w.files r).supported ∧
      ((perform i op out w).2.files r).preview = (w.files r).preview := by
  have hheard : ∀ {v : World}, Heard (some i) w v → (v.files r).object = (w.files r).object ∧
      (v.files r).supported = (w.files r).supported ∧ (v.files r).preview = (w.files r).preview := by
    intro v hv
    obtain ⟨new,hn,_⟩ := hv.rows r
    exact ⟨congrArg Rows.object hn,congrArg Rows.supported hn,congrArg Rows.preview hn⟩
  cases op with
  | commit r' c =>
    simp only [perform]
    rcases commit_cases w i r' c with ⟨e,he⟩ | ⟨f,_,hf,he⟩
    · rw [he]; exact ⟨rfl,rfl,rfl⟩
    · rw [he]
      by_cases hr : r = r'
      · subst hr
        have hrows := (Commit.run_ok hf).2
        obtain ⟨_,ho,hp,_,hs⟩ := @Commit.rows_frame i (w.files r).rows c
        rw [← hrows] at ho hp hs
        simp only [setFile,Function.update_self]
        exact ⟨ho,hs,hp⟩
      · simp [setFile,hr]
  | acquire r' =>
    simp only [perform,acquire]
    repeat' split
    all_goals exact ⟨rfl,rfl,rfl⟩
  | mutate r' m => exact hheard (mutate_heard w i r' m _ _)
  | armGuard r' guard => exact hheard (armGuard_heard w i r' guard _)
  | disarmGuard r' => exact hheard (disarmGuard_heard w i r' _)
  | guardStatus r' => exact hheard (guardStatus_heard w i r' _)
  | _ => exact ⟨rfl,rfl,rfl⟩

end World

theorem World.perform_kept {op : Op} (hop : op ≠ .serve) (out : Outside) (w : World) :
    (World.perform i op out w).2.phase = w.phase ∧ (World.perform i op out w).2.requests = w.requests ∧
      (World.perform i op out w).2.runs = w.runs := by
  cases op with
  | serve => exact absurd rfl hop
  | commit run c =>
    rcases World.commit_cases w i run c with ⟨e,he⟩ | ⟨f,_,_,he⟩
    · simp only [World.perform]; rw [he]; exact ⟨rfl,rfl,rfl⟩
    · simp only [World.perform]; rw [he]; exact ⟨rfl,rfl,rfl⟩
  | acquire run =>
    simp only [World.perform,World.acquire]
    repeat' split
    all_goals exact ⟨rfl,rfl,rfl⟩
  | mutate run m =>
    have h := World.mutate_heard w i run m out.outcome out.landed
    exact ⟨h.phase,h.requests,h.runs⟩
  | armGuard run guard =>
    have h := World.armGuard_heard w i run guard out.delivery
    exact ⟨h.phase,h.requests,h.runs⟩
  | disarmGuard run =>
    have h := World.disarmGuard_heard w i run out.delivery
    exact ⟨h.phase,h.requests,h.runs⟩
  | guardStatus run =>
    have h := World.guardStatus_heard w i run out.delivery
    exact ⟨h.phase,h.requests,h.runs⟩
  | _ => exact ⟨rfl,rfl,rfl⟩

namespace World

theorem rows_logged (w : World) (r : RunId) (call : Call) :
    ((w.log r call).files r).rows = { (w.files r).rows with journal := call :: (w.files r).rows.journal } := by
  rw [rows_log,if_pos rfl]

theorem mutate_rows (w : World) (i : RequestId) (r : RunId) (m : MutationRequest) (outcome : MutationOutcome)
    (landed : Bool) : ((w.mutate i r m outcome landed).files r).rows = { (w.files r).rows with
      journal := .mutated i m.purpose m.attempt outcome (outcome.lands landed) :: (w.files r).rows.journal } := by
  simp only [mutate]
  split
  · split <;> exact rows_logged w r _
  · exact rows_logged w r _

theorem armGuard_rows (w : World) (i : RequestId) (r : RunId) (guard : ArmedGuard) (delivery : Delivery) :
    ∃ held, ((w.armGuard i r guard delivery).2.files r).rows = { (w.files r).rows with
      journal := .guardAsked i held :: (w.files r).rows.journal } ∧
      ((w.armGuard i r guard delivery).1 = .ok () → held = true) := by
  unfold armGuard
  repeat' split
  · exact ⟨false,rows_logged w r _,by simp⟩
  · exact ⟨true,rows_logged w r _,by simp⟩
  · exact ⟨false,rows_logged w r _,by simp⟩
  · exact ⟨true,rows_logged w r _,fun _ => rfl⟩
  · exact ⟨false,rows_logged w r _,by simp⟩

theorem disarmGuard_rows (w : World) (i : RequestId) (r : RunId) (delivery : Delivery) :
    ((w.disarmGuard i r delivery).2.files r).rows = { (w.files r).rows with
      journal := .guardReleased i (w.disarmGuard i r delivery).1 :: (w.files r).rows.journal } := by
  unfold disarmGuard
  split <;> exact rows_logged w r _

theorem disarmGuard_ne_armed (w : World) (i : RequestId) (r : RunId) (delivery : Delivery) :
    (w.disarmGuard i r delivery).1 ≠ .armed := by
  unfold disarmGuard
  split
  · simp
  · simp
  · exact w.agent.disarm_ne_armed r

end World

namespace Serves

theorem ret {v : Except Error α} (hP : q.Stable i P) (h : ∀ {x}, s.Fits x → P x → Q v x) :
    Serves q i s P (.ret v) Q :=
  Triple.ret (Serving.stable hP) fun hI hw => { hw with holds := h (hw.fits hI) hw.holds }

theorem conseq (h : Serves q i s P p Q) (hP : ∀ {x}, s.Fits x → P' x → P x)
    (hQ : ∀ v {x}, s.Fits x → Q v x → Q' v x) : Serves q i s P' p Q' :=
  Triple.conseq h (fun hI hw => { hw with holds := hP (hw.fits hI) hw.holds })
    (fun v _ hI hw => { hw with holds := hQ v (hw.fits hI) hw.holds })

theorem pre (h : Serves q i s P p Q) (hP : ∀ {x}, s.Fits x → P' x → P x) : Serves q i s P' p Q :=
  h.conseq hP fun _ _ _ hx => hx

/-- A fact that follows from the assertion and does not depend on the rows. -/
theorem extract {φ : Prop} (h : ∀ {x}, s.Fits x → P x → φ) (hp : φ → Serves q i s P p Q) :
    Serves q i s P p Q :=
  fun w hI hw => hp (h (hw.fits hI) hw.holds) w hI hw

theorem exists' {γ : Type} {P : γ → Rows → Prop} (h : ∀ a, Serves q i s (P a) p Q) :
    Serves q i s (fun x => ∃ a, P a x) p Q := by
  intro w hI hw
  obtain ⟨a,ha⟩ := hw.holds
  exact h a w hI { hw with holds := ha }

theorem bind {M : Except Error α → Rows → Prop} {f : α → Service β} {Q : Except Error β → Rows → Prop}
    (hp : Serves q i s P p M) (hf : ∀ a, Serves q i s (M (.ok a)) (f a) Q)
    (he : ∀ e, Serves q i s (M (.error e)) (.ret (.error e)) Q) : Serves q i s P (p >>= f) Q :=
  Triple.bind protocol_lawful hp hf he

theorem tryCatch {M : Except Error α → Rows → Prop} {f : Error → Service α} (hp : Serves q i s P p M)
    (ho : ∀ a, Serves q i s (M (.ok a)) (.ret (.ok a)) Q) (he : ∀ e, Serves q i s (M (.error e)) (f e) Q) :
    Serves q i s P (MonadExcept.tryCatch p f) Q :=
  Triple.tryCatch protocol_lawful hp ho he

theorem act {op : Op} {next : op.Ret → Service α} {P' : op.Ret → Rows → Prop} (hop : op.About s.id)
    (hP : q.Stable i P) (hl : ∀ {w}, World.Inv w → Serving q i s P w → w.Permits i q.alone op)
    (hs : ∀ {w} out, World.Inv w → Serving q i s P w →
      P' (World.perform i op out w).1 ((World.perform i op out w).2.files s.id).rows)
    (hn : ∀ a, Serves q i s (P' a) (next a) Q) : Serves q i s P (.act op next) Q := by
  refine Triple.act protocol_lawful (Serving.stable hP) (fun {w} hI hw => ?_) ?_
  · exact ⟨hw.active,hw.asked_lt,by rw [hw.starting_iff]; exact hl hI hw⟩
  · intro a v hv hpost
    obtain ⟨w,out,hI,hw,_,he⟩ := hpost
    have hpair : World.perform i op out w = (a,v) := he
    have hne : op ≠ .serve := by rintro rfl; exact hop
    obtain ⟨hphase,hreq,hruns⟩ := World.perform_kept (i := i) hne out w
    obtain ⟨hobject,hsupported,hpreview⟩ := World.perform_frame (i := i) op out w s.id
    have hother := fun r hr => @World.perform_other i w op s.id hop out r hr
    have hx := hs out hI hw
    rw [hpair] at hphase hreq hruns hx hobject hsupported hpreview hother
    exact hn a v hv {
      mode := by rw [hphase]; exact hw.mode
      asked := by rw [hreq]; exact hw.asked
      runs := hruns.trans hw.runs
      listed := by rw [hruns]; exact hw.listed
      object := hobject.trans hw.object
      supported := hsupported.trans hw.supported
      preview := hpreview.trans hw.preview
      apart := fun ha r hr => by rw [hother r hr]; exact hw.apart ha r hr
      holds := hx }

/-- An operation that looks and moves nothing, together with what it saw. -/
theorem look {op : Op} {next : op.Ret → Service α} {seen : op.Ret → Rows → Prop} (hop : op.About s.id)
    (hl : ∀ {w : World}, s.id ∈ w.runs → w.Permits i q.alone op)
    (hs : ∀ {w : World} out, (World.perform i op out w).2.files = w.files ∧
      seen (World.perform i op out w).1 (w.files s.id).rows)
    (hP : q.Stable i P) (hn : ∀ a, Serves q i s (fun x => P x ∧ seen a x) (next a) Q) :
    Serves q i s P (.act op next) Q :=
  act hop hP (fun _ hw => hl hw.listed)
    (fun out _ hw => by rw [(hs out).1]; exact ⟨hw.holds,(hs out).2⟩) hn

theorem run {next : RunRecord → Service α} (hP : q.Stable i P)
    (hn : ∀ run : RunRecord, run.Of s → Serves q i s (fun x => P x ∧ run.state = x.state) (next run) Q) :
    Serves q i s P (.act (.run s.id) next) Q := by
  have hnext : ∀ run : RunRecord, Serves q i s (fun x => P x ∧ run.Of s ∧ run.state = x.state) (next run) Q :=
    fun run => extract (fun _ hx => hx.2.1) fun hof => (hn run hof).pre fun _ hx => ⟨hx.1,hx.2.2⟩
  refine @act q i s P α Q (.run s.id) next _ trivial hP ?_ ?_ hnext
  · exact fun _ _ => trivial
  · exact fun _ _ hw => ⟨hw.holds,⟨rfl,hw.object,hw.supported,hw.preview⟩,rfl⟩

theorem change {next : Option ChangeColumns → Service α} (hP : q.Stable i P)
    (hn : ∀ change, Serves q i s (fun x => P x ∧ change = x.change) (next change) Q) :
    Serves q i s P (.act (.change s.id) next) Q := by
  refine look trivial ?_ ?_ hP hn
  · exact fun _ => trivial
  · exact fun _ => ⟨rfl,rfl⟩

theorem guard {next : Option GuardColumns → Service α} (hP : q.Stable i P)
    (hn : ∀ guard, Serves q i s (fun x => P x ∧ guard = x.guard) (next guard) Q) :
    Serves q i s P (.act (.guard s.id) next) Q := by
  refine look trivial ?_ ?_ hP hn
  · exact fun _ => trivial
  · exact fun _ => ⟨rfl,rfl⟩

theorem checkpoint {next : Option Checkpoint → Service α} (hP : q.Stable i P)
    (hn : ∀ checkpoint, Serves q i s (fun x => P x ∧ checkpoint = x.checkpoint) (next checkpoint) Q) :
    Serves q i s P (.act (.checkpoint s.id) next) Q := by
  refine look trivial ?_ ?_ hP hn
  · exact fun _ => trivial
  · exact fun _ => ⟨rfl,rfl⟩

/-- Operations that only read, where what they return does not matter to the assertion. -/
def Reads : Op → Bool
  | .run _ | .confirmation _ | .checkpoint _ | .guard _ | .change _ | .hold _ | .target _ | .replan _
  | .correlate _ | .observe _ => true
  | _ => false

theorem aside {op : Op} {next : op.Ret → Service α} (hop : Reads op) (hP : q.Stable i P)
    (hn : ∀ a, Serves q i s P (next a) Q) : Serves q i s P (.act op next) Q := by
  refine act (by cases op <;> trivial) hP ?_ ?_ hn
  · intro w _ _
    cases op <;> trivial
  · intro w out _ hw
    cases op <;> first | exact hw.holds | cases hop

/-- A program that only reads, followed by one that goes on under the same assertion. -/
theorem gate {p : Service β} {f : β → Service α} (hp : p.All fun op => Reads op) (hP : q.Stable i P)
    (hn : ∀ a, Serves q i s P (f a) Q) (he : ∀ e, Serves q i s P (.ret (.error e)) Q) :
    Serves q i s P (p >>= f) Q := by
  induction p with
  | ret x => cases x with
    | ok a => exact hn a
    | error e => exact he e
  | act op next ih => exact aside hp.1 hP fun a => ih a (hp.2 a)

theorem reads {p : Service α} (hp : p.All fun op => Reads op) (hP : q.Stable i P) :
    Serves q i s P p fun _ => P := by
  induction p with
  | ret x => exact ret hP fun _ hx => hx
  | act op next ih => exact aside hp.1 hP fun a => ih a (hp.2 a)

theorem acquire {next : Except Error RunRecord → Service α} (hP : q.Stable i P)
    (hn : ∀ a, (∀ run, a = .ok run → run.Of s) → Serves q i s P (next a) Q) :
    Serves q i s P (.act (.acquire s.id) next) Q := by
  have hnext : ∀ a : Except Error RunRecord, Serves q i s (fun x => P x ∧ ∀ run, a = .ok run → run.Of s) (next a) Q :=
    fun a => extract (fun _ hx => hx.2) fun hof => (hn a hof).pre fun _ hx => hx.1
  refine @act q i s P α Q (.acquire s.id) next _ rfl hP ?_ ?_ hnext
  · exact fun _ hw => hw.listed
  · intro w out _ hw
    simp only [World.perform,World.acquire]
    repeat' split
    all_goals refine ⟨hw.holds,fun run hrun => ?_⟩
    all_goals cases hrun
    all_goals exact ⟨rfl,hw.object,hw.supported,hw.preview⟩

/-- The rows after a commit was tried. -/
def Tried (P' P : Rows → Prop) : Except Error Unit → Rows → Prop
  | .ok _ => P'
  | .error _ => P

/-- A commit that is made leaves the rows the commit makes of them; one that is aborted leaves
them as they were. -/
theorem commit {c : Commit} {next : Except Error Unit → Service α} (P' : Rows → Prop) (hP : q.Stable i P)
    (hl : ∀ {x}, s.Fits x → P x → c.Licence i q.alone x)
    (hk : ∀ {w evidence}, Serving q i s P w → c = .keep evidence → ∃ v, w.Proving i s.id v ∧ evidence = v.evidence)
    (hs : ∀ {x locked}, s.Fits x → P x → c.Requires locked x → P' (c.rows i x))
    (hn : Serves q i s P' (next (.ok ())) Q) (he : ∀ e, Serves q i s P (next (.error e)) Q) :
    Serves q i s P (.act (.commit s.id c) next) Q := by
  have hnext : ∀ a : Op.Ret (.commit s.id c), Serves q i s (Tried P' P a) (next a) Q := fun a => match a with
    | .ok _ => hn
    | .error e => he e
  refine @act q i s P α Q (.commit s.id c) next (Tried P' P) rfl hP ?_ ?_ hnext
  · exact fun hI hw => ⟨hl (hw.fits hI) hw.holds,fun evidence h => hk hw h⟩
  · intro w out hI hw
    simp only [World.perform]
    rcases World.commit_cases w i s.id c with ⟨e,hc⟩ | ⟨f,_,hf,hc⟩
    · rw [hc]; exact hw.holds
    · obtain ⟨hreq,hrows⟩ := Commit.run_ok hf
      rw [hc]
      show P' ((w.setFile s.id f).files s.id).rows
      rw [World.rows_setFile,if_pos rfl,hrows]
      exact hs (hw.fits hI) hw.holds hreq

/-- Having an executor carry something out. -/
theorem mutate {m : MutationRequest} {next : MutationReport → Service α} (P' : MutationOutcome → Rows → Prop)
    (hP : q.Stable i P) (hl : ∀ {x}, s.Fits x → P x → m.Licence i x)
    (hs : ∀ {x} outcome landed, s.Fits x → P x → P' outcome { x with
      journal := .mutated i m.purpose m.attempt outcome landed :: x.journal })
    (hn : ∀ report, Serves q i s (P' report.outcome) (next report) Q) : Serves q i s P (.act (.mutate s.id m) next) Q := by
  have hnext : ∀ report : (Op.mutate s.id m).Ret, Serves q i s ((fun a : MutationReport => P' a.outcome) report)
      (next report) Q := hn
  refine act rfl hP ?_ ?_ hnext
  · exact fun hI hw => hl (hw.fits hI) hw.holds
  · intro w out hI hw
    simp only [World.perform]
    rw [World.mutate_rows]; exact hs _ _ (hw.fits hI) hw.holds

theorem armGuard {guard : ArmedGuard} {next : Except String Unit → Service α} (P' : Except String Unit → Rows → Prop)
    (hP : q.Stable i P) (hl : ∀ {w}, World.Inv w → Serving q i s P w → w.Permits i q.alone (.armGuard s.id guard))
    (hs : ∀ {x} held answer, s.Fits x → P x → (answer = .ok () → held = true) →
      P' answer { x with journal := .guardAsked i held :: x.journal })
    (hn : ∀ answer, Serves q i s (P' answer) (next answer) Q) :
    Serves q i s P (.act (.armGuard s.id guard) next) Q := by
  refine act rfl hP hl ?_ hn
  · intro w out hI hw
    obtain ⟨held,hrows,hheld⟩ := World.armGuard_rows w i s.id guard out.delivery
    simp only [World.perform]
    rw [hrows]; exact hs held _ (hw.fits hI) hw.holds hheld

theorem disarmGuard {next : GuardReport → Service α} (P' : GuardReport → Rows → Prop) (hP : q.Stable i P)
    (hl : ∀ {w}, World.Inv w → Serving q i s P w → w.Permits i q.alone (.disarmGuard s.id))
    (hs : ∀ {x} report, report ≠ .armed → s.Fits x → P x →
      P' report { x with journal := .guardReleased i report :: x.journal })
    (hn : ∀ report, Serves q i s (P' report) (next report) Q) :
    Serves q i s P (.act (.disarmGuard s.id) next) Q := by
  refine act rfl hP hl ?_ hn
  · intro w out hI hw
    simp only [World.perform]
    rw [World.disarmGuard_rows]; exact hs _ (World.disarmGuard_ne_armed w i s.id _) (hw.fits hI) hw.holds

theorem guardStatus {next : GuardReport → Service α} (P' : GuardReport → Rows → Prop) (hP : q.Stable i P)
    (hs : ∀ {x} report, s.Fits x → P x → P' report { x with journal := .guardStatus i report :: x.journal })
    (hn : ∀ report, Serves q i s (P' report) (next report) Q) :
    Serves q i s P (.act (.guardStatus s.id) next) Q := by
  refine act rfl hP ?_ ?_ hn
  · exact fun _ _ => trivial
  · intro w out hI hw
    simp only [World.perform]
    rw [World.guardStatus,World.rows_logged]; exact hs _ (hw.fits hI) hw.holds

/-- A postcondition for the answer; an error promises nothing. -/
def Yield (P : α → Rows → Prop) : Except Error α → Rows → Prop
  | .ok a => P a
  | .error _ => fun _ => True

theorem failed {Q : α → Rows → Prop} {e : Error} (hP : q.Stable i P) :
    Serves q i s P (.ret (.error e)) (Yield Q) := ret hP fun _ _ => trivial

theorem andThen (M : α → Rows → Prop) {Q : β → Rows → Prop} {f : α → Service β} (hp : Serves q i s P p (Yield M))
    (hf : ∀ a, Serves q i s (M a) (f a) (Yield Q)) : Serves q i s P (p >>= f) (Yield Q) :=
  bind hp hf fun _ => failed fun _ _ _ => trivial

end Serves

/-- The program keeps to its licences; nothing is claimed about what it returns. -/
abbrev Runs (q : Caller) (i : RequestId) (s : Subject) (P : Rows → Prop) {α : Type} (p : Service α) : Prop :=
  Serves q i s P p (Serves.Yield fun _ _ => True)

end LocalPlane
