import LocalPlane.SequentialRequests
import LocalPlane.Scenarios

/-!
# Replaying a transcript

A Run's transcript is numbered as it grows, and an entry that moves the Run names the
state it leaves and the one it enters. In every history in which requests do not overlap
the entries form one chain, and replaying them gives the state the row is in. A note
between two moves carries neither state.
-/

set_option linter.dupNamespace false

namespace LocalPlane

open Interleaved

namespace Event

/-- The state the entries lead to. -/
def replay (events : List Event) : Option RunState := events.foldl (fun state e => e.stateTo.or state) none

theorem replay_append (events : List Event) (e : Event) : replay (events ++ [e]) = e.stateTo.or (replay events) := by
  simp [replay]

/-- An entry either notes something, or leaves the state its predecessors lead to for another. -/
def Follows (before : List Event) (e : Event) : Prop :=
  e.stateFrom = none ∧ e.stateTo = none ∨ e.stateFrom = replay before ∧ e.stateTo.isSome

/-- Each entry leaves the state the entry before it names. -/
def Linked (events : List Event) : Prop := events.IsChain fun e e' => e'.stateFrom = e.stateTo

instance (events : List Event) : Decidable (Linked events) := inferInstanceAs (Decidable (List.IsChain ..))

end Event

/-- What the transcript of a Run in this state has to be. -/
structure Transcript (state : RunState) (events : List Event) : Prop where
  numbered : events.map (·.sequence) = List.range' 1 events.length
  chained : ∀ before e after, events = before ++ e :: after → e.Follows before
  replayed : Event.replay events = some state

namespace Transcript

variable {state : RunState} {events : List Event}

theorem max_of_range (n k : ℕ) : (List.range' 1 n).foldr max k = max n k := by
  induction n generalizing k with
  | zero => simp
  | succ n ih =>
    rw [List.range'_1_concat,List.foldr_append,ih]
    simp only [List.foldr_cons,List.foldr_nil]
    omega

theorem nextSequence (h : Transcript state events) : Event.nextSequence events = events.length + 1 := by
  unfold Event.nextSequence
  rw [h.numbered,max_of_range]
  omega

theorem planned : Transcript .preview [.planned] where
  numbered := rfl
  chained before e after h := by
    cases before with
    | nil => obtain ⟨rfl,_⟩ := List.cons.inj h; exact .inr ⟨rfl,rfl⟩
    | cons b bs => exact absurd (congrArg List.length h) (by simp)
  replayed := rfl

/-- One more entry, under the next number and with states that follow. -/
theorem append (h : Transcript state events) (request : RequestId) (event : RunEvent) {stateFrom stateTo : Option RunState}
    {state' : RunState} (hf : stateFrom = none ∧ stateTo = none ∧ state' = state ∨
      stateFrom = some state ∧ stateTo = some state') :
    Transcript state' (events ++ [⟨request,Event.nextSequence events,event,stateFrom,stateTo⟩]) where
  numbered := by
    simp [h.numbered,h.nextSequence,List.range'_1_concat,Nat.add_comm]
  chained before e after he := by
    rcases List.append_eq_append_iff.mp he with ⟨mid,rfl,hm⟩ | ⟨mid,rfl,hm⟩
    · cases mid with
      | nil =>
        obtain ⟨rfl,_⟩ := List.cons.inj hm
        rw [List.append_nil]
        rcases hf with ⟨hfrom,hto,_⟩ | ⟨hfrom,hto⟩
        · exact .inl ⟨hfrom,hto⟩
        · exact .inr ⟨hfrom.trans h.replayed.symm,by simp [hto]⟩
      | cons m ms => exact absurd (congrArg List.length hm) (by simp)
    · cases mid with
      | nil =>
        obtain ⟨rfl,_⟩ := List.cons.inj hm
        rcases hf with ⟨hfrom,hto,_⟩ | ⟨hfrom,hto⟩
        · exact .inl ⟨hfrom,hto⟩
        · exact .inr ⟨hfrom.trans (by simpa using h.replayed.symm),by simp [hto]⟩
      | cons m ms =>
        obtain ⟨rfl,rfl⟩ := List.cons.inj hm
        exact h.chained before e ms rfl
  replayed := by
    rw [Event.replay_append,h.replayed]
    rcases hf with ⟨_,hto,hs⟩ | ⟨_,hto⟩ <;> simp [*]

end Transcript

/-! What one transaction adds -/

/-- Whatever the transcript was before the transaction, it is one after it. -/
def RunFile.Tells (f f' : RunFile) : Prop := Transcript f.state f.events → Transcript f'.state f'.events

namespace RunFile

variable {f g f' : RunFile} {i : RequestId}

theorem Tells.trans (h : f.Tells g) (h' : g.Tells f') : f.Tells f' := fun ht => h' (h ht)

theorem Tells.of_same (hs : f'.state = f.state) (he : f'.events = f.events) : f.Tells f' := by
  intro ht
  rw [hs,he]
  exact ht

/-- Rows other than the Run's own and its transcript do not matter. -/
theorem Tells.after (h : g.Tells f') (hs : g.state = f.state) (he : g.events = f.events) : f.Tells f' :=
  (Tells.of_same hs he).trans h

theorem Tells.note (h : f.Tells g) (event : RunEvent) : f.Tells (g.note i event) :=
  h.trans fun ht => ht.append i event (.inl ⟨rfl,rfl,rfl⟩)

theorem tells_setGuard {c : GuardColumns} (h : f.setGuard c = .ok f') : f.Tells f' := by
  obtain ⟨_,_,rfl⟩ := setGuard_ok h
  exact .of_same rfl rfl

theorem tells_updateGuard {update : GuardColumns → GuardColumns} (h : f.updateGuard update = .ok f') : f.Tells f' := by
  unfold updateGuard at h
  split at h
  · cases h; exact .of_same rfl rfl
  · exact tells_setGuard h

theorem tells_insertAttempt {a : AttemptColumns} (h : f.insertAttempt a = .ok f') : f.Tells f' := by
  obtain ⟨_,_,_,rfl⟩ := insertAttempt_ok h
  exact .of_same rfl rfl

theorem tells_updateAttempt {openedBy : RequestId} {update : AttemptColumns → AttemptColumns}
    (h : f.updateAttempt openedBy update = .ok f') : f.Tells f' := by
  rcases updateAttempt_ok h with ⟨_,rfl⟩ | ⟨a,ha,_,_,_,_,_,rfl⟩
  · exact .of_same rfl rfl
  · exact .of_same rfl rfl

/-- The row moves and the entry that says so is written with it. -/
theorem tells_moved {stateFrom stateTo : RunState} (event : RunEvent) (hs : g.state = stateTo)
    (he : g.events = f.events) (hf : stateFrom = f.state) : f.Tells (g.append i event (some stateFrom) (some stateTo)) := by
  intro ht
  show Transcript g.state (g.events ++ [⟨i,Event.nextSequence g.events,event,some stateFrom,some stateTo⟩])
  rw [he,hs]
  exact ht.append i event (.inr ⟨congrArg some hf,rfl⟩)

theorem tells_setRun {c : RunColumns} {stateFrom : RunState} {event : RunEvent} (h : f.setRun c = .ok g)
    (hf : stateFrom = f.state) : f.Tells (g.append i event (some stateFrom) (some c.state)) := by
  obtain ⟨_,rfl⟩ := setRun_ok h
  exact tells_moved event rfl rfl hf

theorem tells_step {s : Step} (h : f.step i s = .ok f')
    (hs : s.stateFrom = none ∧ s.state = none ∨ s.stateFrom = some f.state ∧ s.state.isSome) : f.Tells f' := by
  obtain ⟨hc,change,rfl,_⟩ := step_ok h
  intro ht
  refine ht.append i s.event ?_
  rcases hs with ⟨hfrom,hto⟩ | ⟨hfrom,hto⟩
  · exact .inl ⟨hfrom,hto,by simp [state,stepColumns,hto]⟩
  · obtain ⟨entered,hto⟩ := Option.isSome_iff_exists.mp hto
    exact .inr ⟨hfrom,by simp [state,stepColumns,hto]⟩

theorem tells_consumeApply (h : f.consumeApply i = .ok f') : f.Tells f' := by
  unfold consumeApply at h
  repeat' split at h
  all_goals cases h
  exact (Tells.of_same rfl rfl).note _

theorem tells_consumeOverride (h : f.consumeOverride i = .ok f') : f.Tells f' := by
  unfold consumeOverride at h
  repeat' split at h
  all_goals cases h
  exact (Tells.of_same rfl rfl).note _

theorem tells_consumeAuthorities (h : f.consumeAuthorities i = .ok f') : f.Tells f' := by
  obtain ⟨g,hg,h⟩ := bind_ok h
  split at h
  · exact (tells_consumeApply hg).trans (tells_consumeOverride h)
  · cases h; exact tells_consumeApply hg

theorem tells_consumeConfirmation {seen : RunState} (h : f.consumeConfirmation i seen = .ok f')
    (hs : (Commit.consumeConfirmation seen).Fits f.state) : f.Tells f' := by
  obtain ⟨g,hg,h⟩ := bind_ok h
  have hstate : g.state = f.state := congrArg Rows.state (rows_consumeAuthorities hg).2
  split at h
  · obtain ⟨k,hk,h⟩ := bind_ok h
    cases h
    exact (tells_consumeAuthorities hg).trans (tells_setRun hk ((hs seen rfl).trans hstate.symm))
  · cases h; exact tells_consumeAuthorities hg

theorem tells_insertGuard (h : f.insertGuard i = .ok f') : f.Tells f' := by
  unfold insertGuard at h
  repeat' split at h
  all_goals first
    | cases h
    | exact tells_setGuard h

theorem tells_cross {seen : RunState} {correlation : Correlation} (h : f.cross i seen correlation = .ok f')
    (hs : seen = f.state) : f.Tells f' := by
  obtain ⟨g,hg,h⟩ := bind_ok h
  obtain ⟨_,rfl⟩ := setRun_ok hg
  split at h
  · obtain ⟨k,hk,h⟩ := bind_ok h
    obtain ⟨_,rfl⟩ := setChange_ok hk
    cases h
    exact tells_moved _ rfl rfl hs
  · cases h

theorem tells_recordArmed (h : f.recordArmed i = .ok f') : f.Tells f' := by
  obtain ⟨g,hg,h⟩ := bind_ok h
  cases h
  exact (tells_updateGuard hg).note _

theorem tells_settleAbandoned {report : GuardReport} (h : f.settleAbandoned report = .ok f') : f.Tells f' :=
  tells_updateGuard h

theorem tells_settleGuard {report : GuardReport} (h : f.settleGuard i report = .ok f') : f.Tells f' := by
  obtain ⟨g,hg,h⟩ := bind_ok h
  cases h
  exact (tells_updateGuard hg).note _

theorem tells_keep {evidence : Option EvidenceId} (h : f.keep i evidence = .ok f') : f.Tells f' := by
  unfold keep at h
  split at h
  · cases h
  · obtain ⟨g,hg,h⟩ := bind_ok h
    cases h
    exact ((tells_updateGuard hg).note _).note _

theorem tells_openAttempt {locked : Bool} (h : f.openAttempt i locked = .ok f') : f.Tells f' := by
  obtain ⟨_,_,h⟩ := bind_ok h
  obtain ⟨g,hg,h⟩ := bind_ok h
  cases h
  exact (tells_insertAttempt hg).note _

theorem tells_spendRecovery {locked : Bool} {correlation : Correlation}
    (h : f.spendRecovery i locked correlation = .ok f') : f.Tells f' := by
  obtain ⟨_,_,h⟩ := bind_ok h
  split at h
  · cases h
  · obtain ⟨g,hg,h⟩ := bind_ok h
    cases h
    have hgrants : f.Tells g := (tells_updateAttempt hg).after rfl rfl
    exact (hgrants.note _).note _

theorem tells_completeRecovery {locked : Bool} {outcome : RecoveryAttemptOutcome}
    (h : f.completeRecovery i locked outcome = .ok f') : f.Tells f' := by
  obtain ⟨_,_,h⟩ := bind_ok h
  obtain ⟨g,hg,h⟩ := bind_ok h
  cases h
  exact ((tells_updateAttempt hg).note _).note _

theorem tells_resolve {locked : Bool} {read : ReadBack} {statement : String} {note : Option String}
    (h : f.resolve i locked read statement note = .ok f') : f.Tells f' := by
  obtain ⟨_,_,h⟩ := bind_ok h
  obtain ⟨g,hg,h⟩ := bind_ok h
  cases h
  exact ((tells_insertAttempt hg).note _).note _

theorem tells_recoveryStep {openedBy : RequestId} {event : RunEvent} {update : AttemptColumns → AttemptColumns}
    (h : f.recoveryStep i openedBy event update = .ok f') : f.Tells f' := by
  obtain ⟨g,hg,h⟩ := bind_ok h
  cases h
  exact (tells_updateAttempt hg).note _

end RunFile

/-- A commit that names the state it leaves tells what it did. -/
theorem Commit.tells {f f' : RunFile} {i : RequestId} {locked : Bool} {c : Commit} (h : c.run i locked f = .ok f')
    (hs : c.Fits f.state) : f.Tells f' := by
  cases c with
  | confirm method typed =>
    simp only [Commit.run,RunFile.confirm] at h
    split at h
    · cases h
    · cases h; exact (RunFile.Tells.of_same rfl rfl).note _
  | grantOverride =>
    simp only [Commit.run,RunFile.grantOverride] at h
    split at h
    · cases h
    · cases h; exact (RunFile.Tells.of_same rfl rfl).note _
  | cancel =>
    simp only [Commit.run,RunFile.cancel] at h
    split at h
    · obtain ⟨g,hg,h⟩ := RunFile.bind_ok h
      cases h
      exact RunFile.tells_setRun hg rfl
    · cases h
  | refuseApply => cases h; exact (RunFile.Tells.of_same rfl rfl).note _
  | targetCorrelated => cases h; exact (RunFile.Tells.of_same rfl rfl).note _
  | consumeConfirmation seen => exact RunFile.tells_consumeConfirmation h hs
  | writeCheckpoint correlation =>
    simp only [Commit.run,RunFile.writeCheckpoint] at h
    split at h
    · cases h; exact (RunFile.Tells.of_same rfl rfl).note _
    · cases h
  | insertGuard => exact RunFile.tells_insertGuard h
  | recordArmed => exact RunFile.tells_recordArmed h
  | settleAbandoned report => exact RunFile.tells_settleAbandoned h
  | settleGuard report => exact RunFile.tells_settleGuard h
  | cross seen correlation => exact RunFile.tells_cross h (hs seen rfl)
  | keep evidence => exact RunFile.tells_keep h
  | grantRecovery =>
    simp only [Commit.run,RunFile.grantRecovery] at h
    split at h
    · cases h
    · cases h; exact (RunFile.Tells.of_same rfl rfl).note _
  | openAttempt => exact RunFile.tells_openAttempt h
  | spendRecovery correlation => exact RunFile.tells_spendRecovery h
  | completeRecovery outcome => exact RunFile.tells_completeRecovery h
  | resolve read statement note => exact RunFile.tells_resolve h
  | recordEvidence read => exact RunFile.tells_recoveryStep h
  | recordRecovery outcome => exact RunFile.tells_recoveryStep h
  | recordRecoveryVerification read => exact RunFile.tells_recoveryStep h
  | settleRetry outcome => exact RunFile.tells_recoveryStep h
  | refuseRecovery code => exact RunFile.tells_recoveryStep h
  | interruptAttempt openedBy unknown => exact RunFile.tells_recoveryStep h
  | failArming => exact RunFile.tells_step h (.inr ⟨congrArg some (hs _ rfl),rfl⟩)
  | startVerification => exact RunFile.tells_step h (.inr ⟨congrArg some (hs _ rfl),rfl⟩)
  | awaitConfirmation seen => exact RunFile.tells_step h (.inr ⟨congrArg some (hs _ rfl),rfl⟩)
  | failCorrelation seen => exact RunFile.tells_step h (.inr ⟨congrArg some (hs _ rfl),rfl⟩)
  | failGuardArming seen => exact RunFile.tells_step h (.inr ⟨congrArg some (hs _ rfl),rfl⟩)
  | hold seen => exact RunFile.tells_step h (.inr ⟨congrArg some (hs _ rfl),rfl⟩)
  | startRollback seen => exact RunFile.tells_step h (.inr ⟨congrArg some (hs _ rfl),rfl⟩)
  | startLapse seen => exact RunFile.tells_step h (.inr ⟨congrArg some (hs _ rfl),rfl⟩)
  | startRollbackVerification seen => exact RunFile.tells_step h (.inr ⟨congrArg some (hs _ rfl),rfl⟩)
  | finish seen effect state result reason => exact RunFile.tells_step h (.inr ⟨congrArg some (hs _ rfl),rfl⟩)
  | _ => exact RunFile.tells_step h (.inl ⟨rfl,rfl⟩)

/-! Whole histories -/

namespace World

variable {w w' : World} {i : RequestId} {op : Op}

/-- The transcript of every Run tells its state. -/
def Transcribed (w : World) : Prop := ∀ r, Transcript (w.files r).state (w.files r).events

theorem Transcribed.unwritten {ok : Call → Prop} (h : w.Transcribed) (hw : Unwritten ok w w') : w'.Transcribed := by
  intro r
  obtain ⟨new,hj,_⟩ := hw r
  rw [hj]
  exact h r

/-- One operation of a request that sees the Runs as they are keeps the transcripts. -/
theorem Transcribed.step (h : w.Transcribed) (a : Outside) (hfits : standing.fits op (w.standings)) :
    (perform i op a w).2.Transcribed := by
  by_cases hop : ∃ r c, op = .commit r c
  · obtain ⟨r,k,rfl⟩ := hop
    rcases commit_cases w i r k with ⟨e,he⟩ | ⟨f,_,hf,he⟩
    · simp only [perform,he]
      exact h
    · simp only [perform,he,setFile]
      intro run
      rcases eq_or_ne run r with rfl | hr
      · simp only [Function.update_self]
        exact Commit.tells hf hfits (h run)
      · simp only [Function.update_of_ne hr]
        exact h run
  · exact h.unwritten (perform_unwritten i op a w fun r c hc => hop ⟨r,c,hc⟩)

end World

/-- The transcript of every Run, in every world a history of requests that do not overlap gets to. -/
theorem transcript_of_sequential {c : engine.Config} (hc : Reach sighting.sequential c) (r : RunId) :
    Transcript (c.world.files r).state (c.world.files r).events := by
  revert r
  refine sighting.invariant (J := World.Transcribed) ?_ ?_ ?_ ?_ ?_ hc
  · intro w hw r
    obtain ⟨hrun,_,_,_,_,_,_,_,hevents,_⟩ := hw.pristine r
    rw [hevents,RunFile.state,hrun]
    exact .planned
  · exact fun a hfits hJ => hJ.step a hfits
  · intro q w i w' he hJ r
    rw [(World.enter_same he).1]
    exact hJ r
  · exact fun he hJ => hJ.unwritten (World.unwritten_outer he)
  · exact fun hJ => hJ

/-- The Run is applied up to its dispatch, the service crashes, and the next start settles it. -/
def crashedAndSettled : List engine.Move :=
  confirmed ++ .enter (.apply 0) :: advance 2 16 ++ [.crash,.enter .startup] ++ advance 3 13

instance (i : ℕ) (op : engine.sig.Op) (a : engine.Outside) (w : engine.World) :
    Decidable (sighting.sequential.step i op a w) := inferInstanceAs (Decidable (i + 1 = w.requests.length))

instance (e : engine.External) (w : engine.World) : Decidable (sighting.sequential.outer e w) := .isTrue trivial

instance (w : engine.World) : Decidable (sighting.sequential.crash w) := .isTrue trivial

theorem transcript_after_settlement : ∃ c : engine.Config, (c.world.files 0).state = .recoveryRequired ∧
    Transcript (c.world.files 0).state (c.world.files 0).events := by
  obtain ⟨c,hc,hp⟩ := exists_of_playUnder sighting.sequential mtuWorld_initial crashedAndSettled
    (fun c => decide ((World.files c.world 0).state = .recoveryRequired)) (by decide +kernel)
  exact ⟨c,of_decide_eq_true hp,transcript_of_sequential hc 0⟩

/-- The entry of a confirmation carries no state, though the one before it entered `preview`. -/
theorem confirmation_breaks_links : ¬∀ c : engine.Config, Reach sighting.sequential c →
    ∀ r, Event.Linked (c.world.files r).events := by
  intro h
  obtain ⟨c,hc,hp⟩ := exists_of_playUnder sighting.sequential mtuWorld_initial confirmed
    (fun c => decide ¬Event.Linked (World.files c.world 0).events) (by decide +kernel)
  exact of_decide_eq_true hp (h c hc 0)

end LocalPlane
