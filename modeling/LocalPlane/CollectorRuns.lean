import LocalPlane.Collectors

/-!
# Filesystem and journal collectors

The two collectors, and what holds over every run of either: there is never more than one
child that nobody has reaped, the lock is held by a call that is still running, and what a
call answers is what its child said or one of the answers it has ready.
-/

set_option linter.dupNamespace false

namespace LocalPlane
namespace Collection

open Interleaved
open CivilTime (Text)
open LineProtocol (Json Fields)
open ServiceJournal (Reading response validate validService JournalStatus)

namespace StorageCollector

open Storage (StorageObservation)

def unavailable (reason : String) : Option (StorageObservation ⊕ Fields) := some (.inl ⟨.unavailable,reason,none,[]⟩)

def observe : Mode Fields (StorageObservation ⊕ Fields) where
  underway := .inl ⟨.busy,"A filesystem collection is already running.",none,[]⟩
  retained := .inl ⟨.busy,"Previous collector has not exited; no replacement was started.",none,[]⟩
  accept fields := .ok (.inr fields)
  caught
    | .timedOut => unavailable "Collection timed out; the slot is retained until actual child exit/reap."
    | .exceeded => unavailable "Collector output exceeded the 512 KiB response limit."
    | .incomplete => unavailable "Collector returned unreadable or incomplete evidence."
    | .value => unavailable "Collector returned malformed evidence."
    | .os => unavailable "Collector could not be started or read."
    | .other => none

end StorageCollector

namespace JournalCollector

variable (unit : Text) (now : Reading)

def answer (status : JournalStatus) : Json := (response status (some unit) now .unknown).toJson

def locked : Mode Json Json where
  underway := answer unit now .busy
  retained := answer unit now .busy
  accept message := if validate message unit then .ok message else .error .value
  caught
    | .timedOut => some (answer unit now .timeout)
    | .value => some (answer unit now .malformed)
    | _ => some (answer unit now .unavailable)

/-- A name that no journal is read for is refused before the lock is looked at. -/
def read (q : Text × Reading) : Except Json (Mode Json Json) :=
  if validService q.1 then .ok (locked q.1 q.2) else .error (response .unsupported none q.2 .unknown).toJson

end JournalCollector

section Answers

variable {J A : Type} (m : Mode J A) (h : List (Exchange (sig J)))

/-- Where an answer comes from, and what is raised instead. -/
def Answered : Except Failure A → Prop
  | .ok a => a = m.underway ∨ a = m.retained ∨ (∃ j, ⟨.receive,.ok j⟩ ∈ h ∧ m.accept j = .ok a) ∨ ∃ e, m.caught e = some a
  | .error e => ⟨.close,.error e⟩ ∈ h ∨ m.caught e = none

variable {m h}

theorem Answered.later {x : Except Failure A} {t : List (Exchange (sig J))} (hx : Answered m h x) : Answered m (h ++ t) x := by
  cases x with
  | error e => exact hx.imp_left fun hmem => List.mem_append_left t hmem
  | ok a =>
    rcases hx with hx | hx | ⟨j,hmem,hj⟩ | hx
    · exact .inl hx
    · exact .inr (.inl hx)
    · exact .inr (.inr (.inl ⟨j,List.mem_append_left t hmem,hj⟩))
    · exact .inr (.inr (.inr hx))

theorem handled_answered (e : Failure) : (m.handled e).wp (Answered m) h := by
  unfold Mode.handled
  cases hcaught : m.caught e with
  | some a => exact .inr (.inr (.inr ⟨e,hcaught⟩))
  | none => exact .inr hcaught

theorem attempt_answered : m.attempt.wp (Answered m) h := by
  intro forked
  cases forked with
  | error e => exact handled_answered e
  | ok pid =>
    intro _ received
    cases received with
    | error e => exact handled_answered e
    | ok j =>
      change (MonadExcept.tryCatch (.ret (m.accept j) : Program (sig J) Failure A) m.handled).wp (Answered m) _
      cases haccept : m.accept j with
      | error e => exact handled_answered e
      | ok a => exact .inr (.inr (.inl ⟨j,by simp,haccept⟩))

theorem giveUp_answered {x : Except Failure A} (hx : Answered m h x) :
    (giveUp >>= fun _ => .ret x : Program (sig J) Failure A).wp (Answered m) h := by
  intro closed
  cases closed with
  | error e => exact .inl (by simp)
  | ok _ =>
    intro exited
    cases exited with
    | false => exact hx.later.later
    | true =>
      intro _
      exact hx.later.later.later

theorem cleanup_answered {x : Except Failure A} (hx : Answered m h x) :
    (cleanup >>= fun _ => .ret x : Program (sig J) Failure A).wp (Answered m) h := by
  intro held
  cases held with
  | false => exact hx.later
  | true =>
    intro exited
    cases exited with
    | true => exact giveUp_answered hx.later.later
    | false =>
      intro _
      exact giveUp_answered hx.later.later.later

theorem started_answered : m.started.wp (Answered m) h :=
  Program.wp_settle.mpr (Program.wp_mono attempt_answered fun _ _ hx => cleanup_answered hx)

theorem locked_answered : m.locked.wp (Answered m) h := by
  intro held
  cases held with
  | false => exact started_answered
  | true =>
    intro exited
    cases exited with
    | true =>
      intro _
      exact started_answered
    | false => exact .inr (.inl rfl)

theorem collect_answered : m.collect.wp (Answered m) h := by
  intro acquired
  cases acquired with
  | false => exact .inl rfl
  | true =>
    refine Program.wp_settle.mpr (Program.wp_mono locked_answered fun _ _ hx => ?_)
    intro _
    exact hx.later

/-- Whatever is answered to it, a journal read gives its caller what the closed contract accepts for the unit,
and raises nothing but what closing the pipe raised. -/
theorem journal_accepted (q : Text × Reading) {h : List (Exchange (sig Json))} {x : Except Failure Json}
    (hr : (respond (JournalCollector.read q)).Runs h x) :
    (∀ a, x = .ok a → validate a q.1 = true) ∧ ∀ e, x = .error e → ⟨.close,.error e⟩ ∈ h := by
  obtain ⟨unit,now⟩ := q
  by_cases hvalid : validService unit = true
  · rw [JournalCollector.read,if_pos hvalid] at hr
    have hlength : unit.length ≤ 255 := ServiceJournal.length_of_validService hvalid
    have hready : ∀ status : JournalStatus, ¬(status = .ok ∨ status = .empty) →
        validate (JournalCollector.answer unit now status) unit = true :=
      fun status hstatus => ServiceJournal.accepted_response now hlength hstatus (by decide)
    have hcaught : ∀ e, ∃ status : JournalStatus, ¬(status = .ok ∨ status = .empty) ∧
        (JournalCollector.locked unit now).caught e = some (JournalCollector.answer unit now status) := by
      intro e
      cases e with
      | timedOut => exact ⟨.timeout,by decide,rfl⟩
      | value => exact ⟨.malformed,by decide,rfl⟩
      | exceeded | incomplete | os | other => exact ⟨.unavailable,by decide,rfl⟩
    have hx := Program.wp_iff.mp (collect_answered (h := [])) h x hr
    rw [List.nil_append] at hx
    refine ⟨fun a ha => ?_,fun e he => ?_⟩
    · subst ha
      rcases hx with rfl | rfl | ⟨j,-,haccept⟩ | ⟨e,hanswer⟩
      · exact hready .busy (by decide)
      · exact hready .busy (by decide)
      · have hj : (if validate j unit then .ok j else .error Failure.value) = Except.ok a := haccept
        split at hj
        · next hvalidated =>
          cases hj
          exact hvalidated
        · cases hj
      · obtain ⟨status,hstatus,hsome⟩ := hcaught e
        rw [hsome] at hanswer
        cases hanswer
        exact hready status hstatus
    · subst he
      refine hx.resolve_right fun hnone => ?_
      obtain ⟨status,-,hsome⟩ := hcaught e
      rw [hsome] at hnone
      cases hnone
  · rw [JournalCollector.read,if_neg hvalid] at hr
    cases hr
    refine ⟨fun a ha => ?_,fun e he => (by cases he)⟩
    cases ha
    exact ServiceJournal.validate_toJson (ServiceJournal.response_wellFormed (fun _ h => (by cases h)) (by decide) (by decide))

theorem journal_busy_accepted : ∃ a, (respond (JournalCollector.read ("a.service".toList,ServiceJournal.noon))).Runs
    [⟨.tryLock,false⟩] (.ok a) ∧ validate a "a.service".toList = true := by
  have hr : (respond (JournalCollector.read ("a.service".toList,ServiceJournal.noon))).Runs [⟨.tryLock,false⟩]
      (.ok (JournalCollector.answer "a.service".toList ServiceJournal.noon .busy)) := by
    rw [JournalCollector.read,if_pos (by decide +kernel)]
    exact .act (.ret _)
  exact ⟨_,hr,(journal_accepted ("a.service".toList,ServiceJournal.noon) hr).1 _ rfl⟩

end Answers

section Runs

variable {J A X Q : Type} {hears : X → Except Failure J} {service : Q → Except A (Mode J A)}

theorem reach_leaving {c : (calls hears service).Config} (hc : Reach .free c) : Reach (leaving true) c := by
  refine hc.mono fun c m h => ?_
  cases h with
  | enter q => exact .enter c q
  | step hp _ => exact .step hp trivial
  | outer _ => exact .outer (.inl rfl)
  | crash _ => exact .crash trivial

/-- Over every run, in any order of steps, there is never a second child that nobody has reaped. It is in the slot
whenever the lock is free; only a call that is still running holds the lock; and a child is forked, and the slot
cleared, only where everything forked before has been reaped. -/
theorem single_flight {c : (calls hears service).Config} (hc : Reach .free c) :
    (∀ p q, Agent.Unreaped c.world p → Agent.Unreaped c.world q → p = q) ∧
    (Agent.lock c.world = none → Agent.Covered c.world) ∧
    (∀ i, Agent.lock c.world = some i → ∃ op next, c.pool i = some (.act op next)) ∧
    (∀ i op next, c.pool i = some (.act op next) → op = .fork ∨ op = .clear → ∀ pid, ¬Agent.Unreaped c.world pid) := by
  have hsound := @sharing_sound J A X Q hears service true
  have hreach := reach_leaving hc
  have hinv : Agent.Inv true c.world := (hsound.holds hreach).1
  refine ⟨hinv.single,hinv.slot,fun i hlock => ?_,fun i op next hp hop => ?_⟩
  · obtain ⟨p,hp⟩ := holder_known hc i hlock
    cases p with
    | act op next => exact ⟨op,next,hp⟩
    | ret x => exact absurd hlock (hsound.returned hreach hp)
  · have hlicence := hsound.licensed hreach hp
    rcases hop with rfl | rfl
    · exact hlicence.2
    · exact hlicence.2

abbrev filesystems : Interleaved := calls (fun fields : Fields => .ok fields) fun _ : Unit => .ok StorageCollector.observe

/-- A call that forks, is told something, and finds its child still there. -/
def cutShort : List filesystems.Move :=
  [.enter (),.step 0 ⟨[],none,true,true⟩,.step 0 ⟨[],none,true,true⟩,.step 0 ⟨[],some 7,true,true⟩,.step 0 ⟨[],none,true,true⟩,
   .step 0 ⟨[],none,true,true⟩,.step 0 ⟨[],none,true,true⟩,.step 0 ⟨[],none,true,true⟩]

def idle : Agent := ⟨fun _ => none,none,none,0⟩

theorem idle_initial : filesystems.initial idle := ⟨fun _ ⟨_,h⟩ => (by cases h),rfl,rfl⟩

theorem single_flight_cutShort : ∃ c : filesystems.Config, Reach .free c ∧ Agent.Unreaped c.world 7 ∧
    ∀ q, Agent.Unreaped c.world q → q = 7 := by
  obtain ⟨c,hc,hp⟩ := exists_of_play idle_initial cutShort (fun c => decide (Agent.processes c.world 7 = some (.own false)))
    (by decide)
  have hseven : Agent.Unreaped c.world 7 := ⟨false,of_decide_eq_true hp⟩
  exact ⟨c,hc,hseven,fun q hq => (single_flight hc).1 q 7 hq hseven⟩

/-- Where nothing else in the agent reaps the collector's children, what is killed is the child in the slot,
which nobody has reaped. -/
theorem kill_own {c : (calls hears service).Config} (hc : Reach (leaving false) c) {i : ℕ} {next : Unit → Program (sig J) Failure A}
    (hp : c.pool i = some (.act .kill next)) : ∃ child, Agent.child c.world = some child ∧ Agent.Unreaped c.world child.pid :=
  ((@sharing_sound J A X Q hears service false).licensed hc hp).2 rfl

def Elsewhere.reaps : Elsewhere → Bool
  | .reaped _ => true
  | _ => false

theorem Elsewhere.reaps_iff {e : Elsewhere} : e.reaps = false ↔ ∀ pid, e ≠ .reaped pid := by
  cases e <;> simp [reaps]

instance (e : Elsewhere) : Decidable (∀ pid, e ≠ .reaped pid) := decidable_of_iff _ Elsewhere.reaps_iff

instance (reaping : Bool) (e : Elsewhere) (w : Agent) : Decidable ((@leaving J A X Q hears service reaping).outer e w) :=
  inferInstanceAs (Decidable (_ ∨ _))

instance (reaping : Bool) (i : ℕ) (op : Op) (x : Outside X) (w : Agent) :
    Decidable ((@leaving J A X Q hears service reaping).step i op x w) := .isTrue trivial

instance (reaping : Bool) (w : Agent) : Decidable ((@leaving J A X Q hears service reaping).crash w) := .isTrue trivial

def killing (c : filesystems.Config) : Bool :=
  match c.pool 0 with
  | some (.act .kill _) => true
  | _ => false

theorem killing_next {c : filesystems.Config} (h : killing c = true) : ∃ next, c.pool 0 = some (.act .kill next) := by
  unfold killing at h
  split at h
  · next next hp => exact ⟨next,hp⟩
  · cases h

theorem kill_own_cutShort : ∃ c : filesystems.Config, Reach (leaving false) c ∧ killing c = true ∧
    ∃ child, Agent.child c.world = some child ∧ Agent.Unreaped c.world child.pid := by
  obtain ⟨c,hc,hp⟩ := exists_of_playUnder (leaving false) idle_initial cutShort killing (by decide +kernel)
  obtain ⟨next,hkill⟩ := killing_next hp
  exact ⟨c,hc,hp,kill_own hc hkill⟩

/-- Where something else reaps the child, its number may be another process by the time it is killed. -/
theorem killed_another : ∃ c : filesystems.Config, Reach .free c ∧ (killing c && decide (Agent.child c.world = some ⟨7,false⟩) &&
    decide (Agent.processes c.world 7 = some .other)) = true :=
  exists_of_play idle_initial (cutShort ++ [.outer (.exits 7),.outer (.reaped 7),.outer (.starts 7)]) _ (by decide +kernel)

end Runs

end Collection
end LocalPlane
