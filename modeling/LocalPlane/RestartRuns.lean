import LocalPlane.LifecycleProof
import LocalPlane.Machine

/-!
# Restarts over the life of a Change

One restart of a container or a service: its dispatch, the reading back of it and any number of
retries, among restarts and sweeps of any other origin. Beside what is stored stands how often
the target was started and how often the Change was dispatched when a reading was taken.
-/

set_option linter.dupNamespace false

namespace LocalPlane

open LineProtocol (Json Fields)
open LifecycleProof
namespace Restarts

structure Reading where
  facts : Fields
  execution : ℕ
  sent : ℕ

/-- The material of a dispatch, and the reading it was taken from. -/
structure Baseline (e : Evidence) where
  reading : Reading
  correlation : Fields
  taken : e.correlate reading.facts = some correlation

def Baseline.of (e : Evidence) (r : Reading) : Option (Baseline e) :=
  match h : e.correlate r.facts with
  | some correlation => some ⟨r,correlation,h⟩
  | none => none

/-- A reading that was judged: against which dispatch, and what it proved. Nothing was proved where the judgement raised. -/
structure Judgement where
  dispatch : ℕ
  baseline : Reading
  shown : Reading
  proof : Option ProofOfState

def Judgement.verified (j : Judgement) : Bool := j.proof.any (·.outcome.proved)

/-- What an executor's own sweep comes to: a failure, or the target seen by another source or by the plan's. -/
inductive Observed where
  | failed
  | foreign (facts : Fields)
  | taken (facts : Fields)

def Observed.seen : Observed → Bool
  | .failed => false
  | _ => true

inductive Phase (e : Evidence) where
  | ready
  | correlated (b : Baseline e)
  | dispatched
  | held
  | retried (seen : Bool)
  | recorrelated (b : Baseline e)
  | redispatched (b : Baseline e)
  | over

structure State (e : Evidence) where
  execution : ℕ
  sent : ℕ
  newest : Option Reading
  change : Option (Baseline e)
  phase : Phase e
  judged : List Judgement

inductive Act where
  | start
  | sweep (facts : Fields)
  | correlate
  | dispatch
  | unread (held : Bool)
  | readBack (observed : Observed)
  | retry (observed : Observed)
  | refuse
  | resolve (observed : Observed)

variable {e : Evidence}

namespace State

def empty : State e := ⟨0,0,none,none,.ready,[]⟩

def read (s : State e) (facts : Fields) : Reading := ⟨facts,s.execution,s.sent⟩

def observe (s : State e) : Observed → State e
  | .failed => s
  | .foreign facts | .taken facts => { s with newest := some (s.read facts) }

/-- A reading is judged against a dispatch. Where that raises, the hold is what a restart finds. -/
def judge (s : State e) (dispatch : ℕ) (b : Baseline e) (unproven : Phase e) (observed : Observed) : State e :=
  match observed with
  | .taken facts =>
    let proof := e.prove facts b.correlation
    { s.observe observed with
      judged := s.judged ++ [⟨dispatch,b.reading,s.read facts,proof⟩]
      phase := match proof with
        | none => .held
        | some p => if p.outcome.proved then .over else unproven }
  | _ => { s.observe observed with phase := unproven }

end State

/-- One step of the target, of another request's sweep, or of the engine with this Change. -/
def step : Act → State e → Option (State e)
  | .start,s => some { s with execution := s.execution + 1 }
  | .sweep facts,s => some (s.observe (.taken facts))
  | .correlate,s =>
    match s.phase with
    | .ready => (s.newest.bind (Baseline.of e)).map fun b => { s with phase := .correlated b }
    -- A retry looks the target up again, whether or not its own sweep has seen it.
    | .retried _ => (s.newest.bind (Baseline.of e)).map fun b => { s with phase := .recorrelated b }
    | _ => none
  | .dispatch,s =>
    match s.phase with
    | .correlated b => some { s with change := some b,sent := s.sent + 1,phase := .dispatched }
    | .recorrelated b => some { s with sent := s.sent + 1,phase := .redispatched b }
    | _ => none
  -- Nothing was written, or nobody can say: an action is not read back then.
  | .unread held,s =>
    match s.phase with
    | .dispatched => some { s with phase := if held then .held else .over }
    | .redispatched _ => some { s with phase := .held }
    | _ => none
  | .readBack observed,s =>
    match s.phase,s.change with
    | .dispatched,some b => some (s.judge 1 b .held observed)
    | .redispatched b,_ => some (s.judge s.sent b .held observed)
    | _,_ => none
  | .retry observed,s =>
    match s.phase,s.change with
    | .held,some b => some (s.judge 1 b (.retried observed.seen) observed)
    | _,_ => none
  | .refuse,s =>
    match s.phase with
    | .retried _ | .recorrelated _ => some { s with phase := .held }
    | _ => none
  | .resolve observed,s =>
    match s.phase,s.change with
    | .held,some b => some (s.judge 1 b .over observed)
    | _,_ => none

def machine (e : Evidence) : Machine where
  State := State e
  Act := Act
  initial s := s = .empty
  step := step

/-- The dispatch a step judges a reading against. -/
def judgedBy (s : State e) : Act → Option (Baseline e × Fields)
  | .readBack (.taken facts) =>
    match s.phase with
    | .redispatched b => some (b,facts)
    | _ => s.change.map (·,facts)
  | .retry (.taken facts) | .resolve (.taken facts) => s.change.map (·,facts)
  | _ => none

/-- What is judged can be compared with its baseline, and a retry dispatches again only after it has seen the target. -/
def Heeded (s : State e) (a : Act) : Prop :=
  (∀ b facts, judgedBy s a = some (b,facts) → e.Legible b.reading.facts facts) ∧ (a = .correlate → s.phase ≠ .retried false)

/-- A judgement verifies what is settled and has moved since a baseline that was taken after every earlier dispatch and
before its own; and the target was started in between. -/
structure Judgement.Sound (e : Evidence) (j : Judgement) : Prop where
  proven : LifecycleProof.Sound j.proof (e.Settled j.shown.facts) (e.Moved j.baseline.facts j.shown.facts)
  own : j.baseline.sent + 1 = j.dispatch
  after : j.dispatch ≤ j.shown.sent
  restarted : j.verified = true → e.Reports j.baseline.execution j.baseline.facts → e.Reports j.shown.execution j.shown.facts →
    j.baseline.execution < j.shown.execution

def Sound (s : State e) : Prop := ∀ j ∈ s.judged, j.Sound e

section Invariant

/-- A reading of the past. -/
def Past (s : State e) (r : Reading) : Prop := r.execution ≤ s.execution ∧ r.sent ≤ s.sent

/-- A baseline of the past that was taken when so many dispatches had been sent. -/
def TakenAt (s : State e) (sent : ℕ) (b : Baseline e) : Prop := b.reading.execution ≤ s.execution ∧ b.reading.sent = sent

/-- What a phase says of the dispatches sent so far and of the baseline it carries. -/
def Timed (s : State e) : Phase e → Prop
  | .ready => s.sent = 0
  | .correlated b => s.sent = 0 ∧ TakenAt s 0 b
  | .retried true => ∀ r, s.newest = some r → r.sent = s.sent
  | .recorrelated b => TakenAt s s.sent b
  | .redispatched b => ∃ n, s.sent = n + 1 ∧ TakenAt s n b
  | _ => True

structure Invariant (s : State e) : Prop where
  newest : ∀ r, s.newest = some r → Past s r
  change : ∀ b, s.change = some b → TakenAt s 0 b ∧ 1 ≤ s.sent
  phase : Timed s s.phase
  judged : Sound s

variable {s s' : State e} {b : Baseline e} {observed : Observed} {unproven : Phase e} {dispatch : ℕ}

theorem Baseline.of_reading {r : Reading} (h : Baseline.of e r = some b) : b.reading = r := by
  unfold Baseline.of at h
  split at h
  · cases h
    rfl
  · cases h

theorem Invariant.empty : Invariant (State.empty : State e) where
  newest r h := by cases h
  change b h := by cases h
  phase := rfl
  judged j h := by cases h

/-- A sweep is of the target as it is. -/
theorem newest_observe (h : ∀ r, s.newest = some r → Past s r) : ∀ r, (s.observe observed).newest = some r → Past s r := by
  cases observed with
  | failed => exact h
  | foreign facts | taken facts =>
    rintro r hr
    cases hr
    exact ⟨le_rfl,le_rfl⟩

theorem newest_judge : (s.judge dispatch b unproven observed).newest = (s.observe observed).newest := by
  cases observed <;> rfl

@[simp] theorem execution_judge : (s.judge dispatch b unproven observed).execution = s.execution := by
  cases observed <;> rfl

@[simp] theorem sent_judge : (s.judge dispatch b unproven observed).sent = s.sent := by
  cases observed <;> rfl

@[simp] theorem change_judge : (s.judge dispatch b unproven observed).change = s.change := by
  cases observed <;> rfl

theorem phase_judge : (s.judge dispatch b unproven observed).phase = unproven ∨
    (s.judge dispatch b unproven observed).phase = .held ∨ (s.judge dispatch b unproven observed).phase = .over := by
  cases observed with
  | failed | foreign facts => exact .inl rfl
  | taken facts =>
    simp only [State.judge]
    cases e.prove facts b.correlation with
    | none => exact .inr (.inl rfl)
    | some p =>
      by_cases hp : p.outcome.proved = true
      · simp [hp]
      · simp [hp]

/-- One reading, judged against a baseline that was taken before its dispatch and after every earlier one. -/
theorem sound_judge (h : Sound s) (hb : TakenAt s (dispatch - 1) b) (hd : 1 ≤ dispatch) (hsent : dispatch ≤ s.sent)
    (hlegible : ∀ facts, observed = .taken facts → e.Legible b.reading.facts facts) :
    Sound (s.judge dispatch b unproven observed) := by
  cases observed with
  | failed | foreign facts => exact h
  | taken facts =>
    intro j hj
    rcases List.mem_append.mp hj with hj | hj
    · exact h j hj
    · obtain rfl := List.mem_singleton.mp hj
      have hproven : LifecycleProof.Sound (e.prove facts b.correlation) (e.Settled facts) (e.Moved b.reading.facts facts) :=
        (e.sound_iff b.taken).mpr (hlegible facts rfl)
      refine ⟨hproven,by simp only [hb.2]; omega,hsent,fun hv hwas hnow => ?_⟩
      obtain ⟨p,hp,hpv⟩ := (Option.any_eq_true ..).mp hv
      have hmoved : e.Moved b.reading.facts facts := (hproven.2 p hp (by simpa [VerificationOutcome.proved] using hpv)).2
      rcases Nat.lt_or_ge b.reading.execution s.execution with hlt | hge
      · exact hlt
      · have he : b.reading.execution = s.execution := le_antisymm hb.1 hge
        exact absurd hmoved (e.apart (n := s.execution) (he ▸ hwas) hnow)

/-- After a reading the run is settled, or a retry goes on that has seen the target or not. -/
theorem Invariant.judge (h : Invariant s) (hb : TakenAt s (dispatch - 1) b) (hd : 1 ≤ dispatch) (hsent : dispatch ≤ s.sent)
    (hlegible : ∀ facts, observed = .taken facts → e.Legible b.reading.facts facts)
    (hunproven : Timed (s.judge dispatch b unproven observed) unproven) : Invariant (s.judge dispatch b unproven observed) where
  newest r hr := by
    have hpast := newest_observe h.newest r (newest_judge ▸ hr)
    exact ⟨by simpa using hpast.1,by simpa using hpast.2⟩
  change b' hb' := by
    obtain ⟨htaken,hone⟩ := h.change b' (by simpa using hb')
    exact ⟨⟨by simpa using htaken.1,htaken.2⟩,by simpa using hone⟩
  phase := by
    have hphase : (s.judge dispatch b unproven observed).phase = unproven ∨ (s.judge dispatch b unproven observed).phase = .held ∨
        (s.judge dispatch b unproven observed).phase = .over := phase_judge
    rcases hphase with hp | hp | hp
    · rw [hp]
      exact hunproven
    · rw [hp]
      trivial
    · rw [hp]
      trivial
  judged := sound_judge h.judged hb hd hsent hlegible

/-- Steps that read nothing keep what is known of the past. -/
theorem Invariant.move (h : Invariant s) {phase : Phase e} (hp : Timed { s with phase := phase } phase) :
    Invariant { s with phase := phase } where
  newest := h.newest
  change := h.change
  phase := hp
  judged := h.judged

theorem TakenAt.later (h : TakenAt s dispatch b) {t : State e} (hle : s.execution ≤ t.execution) : TakenAt t dispatch b :=
  ⟨h.1.trans hle,h.2⟩

theorem Timed.later {t : State e} {phase : Phase e} (h : Timed s phase) (hsent : t.sent = s.sent) (hle : s.execution ≤ t.execution)
    (hnewest : ∀ r, t.newest = some r → s.newest = some r ∨ r.sent = s.sent) : Timed t phase := by
  cases phase with
  | ready => exact hsent.trans h
  | correlated b => exact ⟨hsent.trans h.1,h.2.later hle⟩
  | retried seen =>
    cases seen with
    | false => trivial
    | true =>
      intro r hr
      rcases hnewest r hr with hr | hr
      · exact (h r hr).trans hsent.symm
      · exact hr.trans hsent.symm
  | recorrelated b => exact ⟨h.1.trans hle,h.2.trans hsent.symm⟩
  | redispatched b =>
    obtain ⟨n,hn,htaken⟩ := h
    exact ⟨n,hsent.trans hn,htaken.later hle⟩
  | _ => trivial

theorem newest_sent (r : Reading) (hr : (s.observe observed).newest = some r) : s.newest = some r ∨ r.sent = s.sent := by
  cases observed with
  | failed => exact .inl hr
  | foreign facts | taken facts =>
    cases hr
    exact .inr rfl

/-- The target is started again, by whatever. -/
theorem Invariant.start (h : Invariant s) : Invariant { s with execution := s.execution + 1 } where
  newest r hr := ⟨(h.newest r hr).1.trans (Nat.le_succ _),(h.newest r hr).2⟩
  change b hb := ⟨(h.change b hb).1.later (Nat.le_succ _),(h.change b hb).2⟩
  phase := h.phase.later rfl (Nat.le_succ _) fun _ => .inl
  judged := h.judged

theorem Invariant.sweep (h : Invariant s) (facts : Fields) : Invariant (s.observe (.taken facts)) where
  newest := (newest_observe h.newest : ∀ r, (s.observe (.taken facts)).newest = some r → Past s r)
  change := h.change
  phase := h.phase.later rfl le_rfl newest_sent
  judged := h.judged

/-- Material is taken from the newest reading. -/
theorem Invariant.taken (h : Invariant s) (hb : s.newest.bind (Baseline.of e) = some b) {sent : ℕ}
    (hsent : ∀ r, s.newest = some r → r.sent = sent) : TakenAt s sent b := by
  obtain ⟨r,hr,hof⟩ := Option.bind_eq_some_iff.mp hb
  have hreading := Baseline.of_reading hof
  exact ⟨hreading ▸ (h.newest r hr).1,hreading ▸ hsent r hr⟩

theorem Invariant.correlate (h : Invariant s) (ha : s.phase ≠ .retried false) (hs : step .correlate s = some s') : Invariant s' := by
  have hp := h.phase
  cases hphase : s.phase with
  | ready =>
    simp only [step,hphase,Option.map_eq_some_iff] at hs
    obtain ⟨b,hb,rfl⟩ := hs
    rw [hphase] at hp
    have htaken : TakenAt s 0 b := h.taken hb fun r hr => Nat.le_zero.mp (hp ▸ (h.newest r hr).2)
    exact h.move ⟨hp,htaken⟩
  | retried seen =>
    simp only [step,hphase,Option.map_eq_some_iff] at hs
    obtain ⟨b,hb,rfl⟩ := hs
    rw [hphase] at hp ha
    cases seen with
    | false => exact absurd rfl ha
    | true => exact h.move (h.taken hb hp)
  | _ => simp [step,hphase] at hs

theorem Invariant.dispatched (h : Invariant s) (hs : step .dispatch s = some s') : Invariant s' := by
  have hp := h.phase
  cases hphase : s.phase with
  | correlated b =>
    simp only [step,hphase,Option.some.injEq] at hs
    subst hs
    rw [hphase] at hp
    refine ⟨fun r hr => ⟨(h.newest r hr).1,(h.newest r hr).2.trans (Nat.le_succ _)⟩,fun b' hb' => ?_,trivial,h.judged⟩
    cases hb'
    exact ⟨hp.2,Nat.le_add_left _ _⟩
  | recorrelated b =>
    simp only [step,hphase,Option.some.injEq] at hs
    subst hs
    rw [hphase] at hp
    exact ⟨fun r hr => ⟨(h.newest r hr).1,(h.newest r hr).2.trans (Nat.le_succ _)⟩,
      fun b' hb' => ⟨(h.change b' hb').1,Nat.le_add_left _ _⟩,⟨s.sent,rfl,hp⟩,h.judged⟩
  | _ => simp [step,hphase] at hs

/-- A retry has seen the target as it is, or it has not. -/
theorem timed_retried (s : State e) (b : Baseline e) : Timed (s.judge 1 b (.retried observed.seen) observed) (.retried observed.seen) := by
  cases observed with
  | failed => trivial
  | foreign facts | taken facts =>
    intro r hr
    cases hr
    rfl

theorem Invariant.step {a : Act} (h : Invariant s) (ha : Heeded s a) (hs : step a s = some s') : Invariant s' := by
  cases a with
  | start => exact Option.some.inj hs ▸ h.start
  | sweep facts => exact Option.some.inj hs ▸ h.sweep facts
  | correlate => exact h.correlate (ha.2 rfl) hs
  | dispatch => exact h.dispatched hs
  | unread held =>
    cases hphase : s.phase with
    | dispatched =>
      simp only [Restarts.step,hphase,Option.some.injEq] at hs
      subst hs
      exact h.move (by cases held <;> trivial)
    | redispatched b =>
      simp only [Restarts.step,hphase,Option.some.injEq] at hs
      subst hs
      exact h.move trivial
    | _ => simp [Restarts.step,hphase] at hs
  | refuse =>
    cases hphase : s.phase with
    | retried seen | recorrelated b =>
      simp only [Restarts.step,hphase,Option.some.injEq] at hs
      subst hs
      exact h.move trivial
    | _ => simp [Restarts.step,hphase] at hs
  | retry observed | resolve observed =>
    cases hphase : s.phase with
    | held =>
      cases hchange : s.change with
      | none => simp [Restarts.step,hphase,hchange] at hs
      | some b =>
        simp only [Restarts.step,hphase,hchange,Option.some.injEq] at hs
        subst hs
        obtain ⟨htaken,hone⟩ := h.change b hchange
        refine h.judge htaken le_rfl hone ?_ ?_
        · rintro facts rfl
          exact ha.1 b facts (by simp [judgedBy,hchange])
        · first | exact timed_retried s b | trivial
    | _ => simp [Restarts.step,hphase] at hs
  | readBack observed =>
    cases hphase : s.phase with
    | dispatched =>
      cases hchange : s.change with
      | none => simp [Restarts.step,hphase,hchange] at hs
      | some b =>
        simp only [Restarts.step,hphase,hchange,Option.some.injEq] at hs
        subst hs
        obtain ⟨htaken,hone⟩ := h.change b hchange
        refine h.judge htaken le_rfl hone ?_ trivial
        rintro facts rfl
        exact ha.1 b facts (by simp [judgedBy,hphase,hchange])
    | redispatched b =>
      simp only [Restarts.step,hphase,Option.some.injEq] at hs
      subst hs
      have hp := h.phase
      rw [hphase] at hp
      obtain ⟨n,hn,htaken⟩ := hp
      refine h.judge (hn ▸ htaken) (hn ▸ Nat.le_add_left _ _) le_rfl ?_ trivial
      rintro facts rfl
      exact ha.1 b facts (by simp [judgedBy,hphase])
    | _ => simp [Restarts.step,hphase] at hs

end Invariant

/-- A restart of a container or of a service: how the language reads the daemon's instants, and when each execution
began, or the service's name and the id of each execution. -/
inductive Restart where
  | container (fromisoformat : Reader) (startOf : ℕ → Datetime)
  | service (identity : String) (idOf : ℕ → String)

def Restart.evidence : Restart → Evidence
  | .container fromisoformat startOf => Container.evidence fromisoformat startOf
  | .service identity idOf => Service.evidence identity idOf

/-- In every run that heeds the condition, whatever was judged was judged by a baseline of its own dispatch, and
is verified only where it shows a running target that was started since. -/
theorem restarts_proven {r : Restart} {s : State r.evidence} (h : Machine.Reach (machine r.evidence) Heeded s) : Sound s :=
  (h.invariant (I := Invariant) (fun s hs => by cases hs; exact Invariant.empty) fun _ _ _ (hI : Invariant _) ha hs => hI.step ha hs).judged

theorem heeded_unjudged {s : State e} {a : Act} (h : judgedBy s a = none) (ha : a ≠ .correlate ∨ s.phase ≠ .retried false) :
    Heeded s a := by
  refine ⟨fun b facts hb => ?_,fun hc => ha.resolve_left (not_not.mpr hc)⟩
  rw [h] at hb
  cases hb

def serviceFacts (invocation : String) : Fields :=
  [("canonical_id",.str "web.service"),("active_state",.str "active"),("sub_state",.str "running"),("invocation_id",.str invocation)]

theorem legible_service {was : String} (hw : was ≠ "") (now : String) : Service.Legible (serviceFacts was) (serviceFacts now) := by
  rintro state hs -
  have hactive : state = "active" := by
    cases hs
    rfl
  exact ⟨nofun,fun _ _ _ _ _ => ⟨hactive,was,rfl,hw⟩⟩

def oneService : Restart := .service "web.service" fun n => if n = 0 then "1a" else "2b"

/-- The read-back of the dispatch fails; a retry sees the first execution still, dispatches again and is verified by
the second. -/
theorem restarts_proven_of_retry : ∃ s : State oneService.evidence,
    s.judged.map (fun j => (j.dispatch,j.verified)) = [(1,false),(2,true)] ∧ Sound s := by
  have h : Machine.Reach (machine oneService.evidence) Heeded State.empty := .start rfl
  have h := h.step (a := Act.sweep (serviceFacts "1a")) (heeded_unjudged rfl (.inl nofun)) rfl
  have h := h.step (a := Act.correlate) (heeded_unjudged rfl (.inr nofun)) rfl
  have h := h.step (a := Act.dispatch) (heeded_unjudged rfl (.inl nofun)) rfl
  have h := h.step (a := Act.readBack .failed) (heeded_unjudged rfl (.inl nofun)) rfl
  have h := h.step (a := Act.retry (.taken (serviceFacts "1a")))
    ⟨fun b facts hb => by cases hb; exact legible_service (by decide) _,nofun⟩ rfl
  have h := h.step (a := Act.correlate) (heeded_unjudged rfl (.inr nofun)) rfl
  have h := h.step (a := Act.dispatch) (heeded_unjudged rfl (.inl nofun)) rfl
  have h := h.step (a := Act.start) (heeded_unjudged rfl (.inl nofun)) rfl
  have h := h.step (a := Act.readBack (.taken (serviceFacts "2b")))
    ⟨fun b facts hb => by cases hb; exact legible_service (by decide) _,nofun⟩ rfl
  exact ⟨_,by decide,restarts_proven h⟩

def containerFacts (startedAt : Json) : Fields :=
  [("container_id",.str "c0ffee"),("state",.str "running"),("running",.bool true),("started_at",startedAt)]

/-- The restart of one container; its reader counts seconds from the first of two instants. -/
def oneContainer : Restart :=
  .container (fun text =>
    if text = "2026-08-20T10:00:00+00:00".toList then some ⟨true,0⟩
    else if text = "2026-08-20T10:00:09+00:00".toList then some ⟨true,9⟩
    else none) fun n => ⟨true,9 * n⟩

/-- The dispatch starts the container again and its read-back fails. The retry's first reading fails too, so that it
dispatches with the material of the first dispatch, and what that one did verifies it. -/
theorem earlier_dispatch_verifies : ¬∀ s : State oneContainer.evidence,
    Machine.Reach (machine oneContainer.evidence) Machine.free s → Sound s := by
  intro h
  have hr : Machine.Reach (machine oneContainer.evidence) Machine.free State.empty := .start rfl
  have hr := hr.step (a := Act.sweep (containerFacts (.str "2026-08-20T10:00:00Z"))) trivial rfl
  have hr := hr.step (a := Act.correlate) trivial rfl
  have hr := hr.step (a := Act.dispatch) trivial rfl
  have hr := hr.step (a := Act.start) trivial rfl
  have hr := hr.step (a := Act.readBack .failed) trivial rfl
  have hr := hr.step (a := Act.retry .failed) trivial rfl
  have hr := hr.step (a := Act.correlate) trivial rfl
  have hr := hr.step (a := Act.dispatch) trivial rfl
  have hr := hr.step (a := Act.readBack (.taken (containerFacts (.str "2026-08-20T10:00:09Z")))) trivial rfl
  have hown := (h _ hr _ (List.mem_singleton.mpr rfl)).own
  exact absurd hown (by decide)

end Restarts
end LocalPlane
