import LocalPlane.Keeping

/-!
# Authority, refusals and recovery

Confirming, overriding, cancelling and resolving read the store and make commits that
check everything they rest on themselves. A retry is the one recovery request that has an
executor write, under the attempt it opened and the grant it spent.
-/

set_option linter.dupNamespace false

namespace LocalPlane

/-- Commits any request may make at any time. -/
def Commit.free : Commit → Bool
  | .confirm .. | .grantOverride | .cancel | .refuseApply | .targetCorrelated
  | .admitRecovery | .refuseKeep | .grantRecovery | .openAttempt | .recordEvidence _ | .spendRecovery _
  | .recordRecovery _ | .recordRecoveryVerification _ | .refuseRecovery _ | .resolve .. => true
  | .settleRetry outcome => outcome ≠ .inFlight
  | _ => false

theorem Commit.free_licence {c : Commit} (h : c.free) (i : RequestId) (alone : Prop) (x : Rows) : c.Licence i alone x := by
  cases c with
  | settleRetry outcome => simpa [Commit.free,Commit.Licence] using h
  | _ => trivial

theorem Commit.free_ne_keep {c : Commit} (h : c.free) (evidence : Option EvidenceId) : c ≠ .keep evidence := by
  rintro rfl; cases h

/-- Reads, and commits on that Run that need no licence. -/
def Op.Harmless (r : RunId) : Op → Prop
  | .commit r' c => r' = r ∧ c.free
  | op => Serves.Reads op

/-- Commits that grant an authority or call one off. -/
def Commit.granting : Commit → Bool
  | .confirm .. | .grantOverride | .cancel | .grantRecovery => true
  | _ => false

/-- Reads, and commits on that Run that grant. -/
def Op.Granting (r : RunId) : Op → Prop
  | .commit r' c => r' = r ∧ c.granting
  | op => Serves.Reads op

/-- The attempts this request opened, at least one and all of that shape; nothing was dispatched. -/
structure Rows.Opened (i : RequestId) (φ : AttemptColumns → Prop) (x : Rows) : Prop where
  uncalled : x.callsOf i = []
  some : ∃ a ∈ x.attempts, a.openedBy = i
  all : ∀ a ∈ x.attempts, a.openedBy = i → φ a

namespace Rows

variable {i : RequestId} {x : Rows} {φ ψ : AttemptColumns → Prop}

theorem Opened.stable {q : Caller} (i : RequestId) (φ : AttemptColumns → Prop) : q.Stable i (Rows.Opened i φ) := by
  intro x x' hr _ h
  obtain ⟨a,ha,ho⟩ := h.some
  exact ⟨hr.callsOf.trans h.uncalled,⟨a,hr.attempts a ha ho,ho⟩,fun b hb hbo => h.all b (hr.unopened b hb hbo) hbo⟩

theorem Untried.openAttempt (h : x.Untried i) :
    (Commit.openAttempt.rows i x).Opened i fun a => a.outcome = .inFlight ∧ a.mutation = none := by
  refine ⟨h.uncalled,⟨_,List.mem_append_right _ (List.mem_singleton_self _),rfl⟩,fun a ha ho => ?_⟩
  rcases List.mem_append.mp ha with ha | ha
  · exact absurd ho (h.unopened a ha)
  · cases List.mem_singleton.mp ha
    exact ⟨rfl,rfl⟩

theorem Opened.reattempt {update : AttemptColumns → AttemptColumns} (h : x.Opened i φ)
    (ho : ∀ a, (update a).openedBy = a.openedBy) (hu : ∀ a, φ a → ψ (update a)) :
    (x.reattempt i update).Opened i ψ := by
  obtain ⟨a₀,ha₀,ho₀⟩ := h.some
  obtain ⟨a,ha⟩ : ∃ a, x.attempts.find? (·.openedBy = i) = .some a :=
    Option.isSome_iff_exists.mp (List.find?_isSome.mpr ⟨a₀,ha₀,by simpa using ho₀⟩)
  have hai : a.openedBy = i := by simpa using List.find?_some ha
  have hφ := h.all a (List.mem_of_find?_eq_some ha) hai
  unfold Rows.reattempt
  rw [ha]
  refine ⟨h.uncalled,⟨update a,List.mem_map.mpr ⟨a₀,ha₀,if_pos ho₀⟩,(ho a).trans hai⟩,fun b hb hbo => ?_⟩
  obtain ⟨c,_,rfl⟩ := List.mem_map.mp hb
  by_cases hc : c.openedBy = i
  · rw [if_pos hc]; exact hu a hφ
  · rw [if_neg hc] at hbo; exact absurd hbo hc

theorem Opened.spendRecovery {correlation : Correlation} (h : x.Opened i φ) (hs : x.outstanding.isSome)
    (hφ : ∀ a, φ a → a.outcome = .inFlight ∧ a.mutation = none) :
    ((Commit.spendRecovery correlation).rows i x).Opened i fun a =>
      a.outcome = .inFlight ∧ a.mutation = none ∧ a.mutationAttempt = .some (.retry i) := by
  obtain ⟨grant,hg⟩ := Option.isSome_iff_exists.mp hs
  simp only [Commit.rows,hg]
  let spent := x.grants.map fun g => if g = grant then { g with consumedBy := .some (.retry i) } else g
  have hspent : Rows.Opened i φ { x with grants := spent } := ⟨h.uncalled,h.some,h.all⟩
  exact hspent.reattempt (fun _ => rfl) fun a ha => ⟨(hφ a ha).1,(hφ a ha).2,rfl⟩

end Rows

namespace Service

open Serves

variable {q : Caller} {i : RequestId} {s : Subject} {α : Type} {P : Rows → Prop}

theorem runs_harmless {p : Service α} (hp : p.All (Op.Harmless s.id)) : Runs q i s (fun _ => True) p := by
  induction p with
  | ret x => cases x with
    | ok a => exact Serves.ret (true_stable i) fun _ _ => trivial
    | error e => exact failed (true_stable i)
  | act op next ih =>
    cases op with
    | commit r c =>
      obtain ⟨rfl,hc⟩ := hp.1
      refine Serves.commit _ (true_stable i) (fun _ _ => c.free_licence hc i _ _) ?_ (fun _ _ _ => trivial)
        (ih _ (hp.2 _)) fun e => ih _ (hp.2 _)
      exact fun _ h => absurd h (c.free_ne_keep hc _)
    | _ => exact aside hp.1 (true_stable i) fun a => ih a (hp.2 a)

theorem harmless_of_reads {p : Service α} {r : RunId} (hp : p.All fun op => Reads op) : p.All (Op.Harmless r) :=
  hp.mono fun op hop => by cases op <;> first | exact hop | cases hop

theorem commit_harmless {r : RunId} {c : Commit} (hc : c.free) : (commit r c).All (Op.Harmless r) :=
  ⟨⟨rfl,hc⟩,fun x => by cases x <;> trivial⟩

theorem granting_of_reads {p : Service α} {r : RunId} (hp : p.All fun op => Reads op) : p.All (Op.Granting r) :=
  hp.mono fun op hop => by cases op <;> first | exact hop | cases hop

theorem commit_granting {r : RunId} {c : Commit} (hc : c.granting) : (commit r c).All (Op.Granting r) :=
  ⟨⟨rfl,hc⟩,fun x => by cases x <;> trivial⟩

theorem harmless_of_granting {p : Service α} {r : RunId} (hp : p.All (Op.Granting r)) : p.All (Op.Harmless r) :=
  hp.mono fun op hop => by
    cases op with
    | commit r' c => exact ⟨hop.1,by cases c <;> first | rfl | cases hop.2⟩
    | _ => exact hop

theorem confirm_granting (r : RunId) (digest : Option ℕ) (acknowledge : Bool) (typed : Option String)
    (displayName : String) : (confirm r digest acknowledge typed displayName).All (Op.Granting r) := by
  have hrest : ∀ method, (do
      planNow r
      commit r (.confirm method typed)
      return Response.done : Service Response).All (Op.Granting r) := fun method =>
    (granting_of_reads (planNow_reads r)).bind fun _ => (commit_granting rfl).bind fun _ => trivial
  unfold confirm
  refine (granting_of_reads (ask_reads rfl)).bind fun run => ?_
  split
  · trivial
  split
  · trivial
  split
  · trivial
  refine (granting_of_reads (requireExecutablePreview_reads run)).bind fun _ => ?_
  split
  · trivial
  split
  · trivial
  split
  · refine (granting_of_reads (requireTarget_reads r)).bind fun _ => ?_
    cases typed with
    | none => trivial
    | some statement =>
      simp only
      split
      · trivial
      · exact hrest _
  · split
    · trivial
    · exact hrest _

theorem grantOverride_granting (r : RunId) (digest : Option ℕ) (acknowledge : Bool) :
    (grantOverride r digest acknowledge).All (Op.Granting r) := by
  unfold grantOverride
  refine (granting_of_reads (ask_reads rfl)).bind fun run => ?_
  repeat' split
  all_goals first
    | trivial
    | exact (granting_of_reads (planNow_reads r)).bind fun _ => (commit_granting rfl).bind fun _ => trivial

theorem cancel_granting (r : RunId) : (cancel r).All (Op.Granting r) := (commit_granting rfl).bind fun _ => trivial

theorem findChange_reads (r : RunId) : (findChange r).All fun op => Reads op :=
  ⟨rfl,fun change => by cases change <;> trivial⟩

theorem recoveryConfirm_granting (r : RunId) (reason : Option RecoveryReason) (acknowledge : Bool) :
    (recoveryConfirm r reason acknowledge).All (Op.Granting r) := by
  unfold recoveryConfirm
  refine (granting_of_reads (findChange_reads r)).bind fun change => ?_
  refine (granting_of_reads (ask_reads rfl)).bind fun run => ?_
  refine (granting_of_reads (openHold_reads r)).bind fun _ => ?_
  split
  · trivial
  refine (granting_of_reads (requireExecutablePreview_reads run)).bind fun _ => ?_
  refine (granting_of_reads (planNow_reads r)).bind fun _ => ?_
  repeat' split
  all_goals first
    | trivial
    | exact (commit_granting rfl).bind fun _ => trivial

theorem recoveryResolve_harmless (r : RunId) (reason : Option RecoveryReason) (acknowledge : Bool)
    (statement objectName : String) (note : Option String) :
    (recoveryResolve r reason acknowledge statement objectName note).All (Op.Harmless r) := by
  have hrest : ∀ read, (do
      commit r (.resolve read statement note)
      return Response.done : Service Response).All (Op.Harmless r) := fun read =>
    (commit_harmless rfl).bind fun _ => trivial
  unfold recoveryResolve
  refine (harmless_of_reads (findChange_reads r)).bind fun change => ?_
  refine (harmless_of_reads (ask_reads rfl)).bind fun run => ?_
  refine (harmless_of_reads (openHold_reads r)).bind fun _ => ?_
  repeat' split
  all_goals first
    | trivial
    | exact (harmless_of_reads (readBack_reads _ _)).bind fun read => hrest read
    | exact hrest _

/-! The retry -/

/-- This request opened an attempt. -/
abbrev Opener (i : RequestId) (x : Rows) : Prop := ∃ a ∈ x.attempts, a.openedBy = i

theorem opener_stable (i : RequestId) : q.Stable i (Opener i) := fun hr _ h => by
  obtain ⟨a,ha,ho⟩ := h
  exact ⟨a,hr.attempts a ha ho,ho⟩

theorem opener_reattempt {x : Rows} {update : AttemptColumns → AttemptColumns} (h : Opener i x)
    (ho : ∀ a, (update a).openedBy = a.openedBy) : Opener i (x.reattempt i update) := by
  obtain ⟨b,hb,hbi⟩ := h
  unfold Rows.reattempt
  split
  · exact ⟨b,hb,hbi⟩
  · next a ha =>
    have hai : a.openedBy = i := by simpa using List.find?_some ha
    exact ⟨update a,List.mem_map.mpr ⟨b,hb,if_pos hbi⟩,(ho a).trans hai⟩

/-- The attempt is open and nothing was dispatched under it. -/
abbrev Begun (i : RequestId) : Rows → Prop := Rows.Opened i fun a => a.outcome = .inFlight ∧ a.mutation = none

/-- The grant is spent on the attempt, and its dispatch is about to begin. -/
abbrev Authorised (i : RequestId) : Rows → Prop := Rows.Opened i fun a =>
  a.outcome = .inFlight ∧ a.mutation = none ∧ a.mutationAttempt = some (.retry i)

/-- What the retry has its executor carry out. -/
def Recovers (i : RequestId) (m : MutationRequest) : Prop := m.purpose = .recovery ∧ m.attempt = .retry i

theorem begun_stable (i : RequestId) : q.Stable i (Begun i) := Rows.Opened.stable i _

theorem serves_openRecoveryAttempt :
    Serves q i s (Rows.Untried i) (openRecoveryAttempt s.id) (Yield fun _ => Begun i) := by
  unfold openRecoveryAttempt
  refine Serves.commit (Begun i) (Rows.Untried.stable i) (fun _ _ => trivial) (fun _ h => nomatch h)
    (fun _ h _ => h.openAttempt) ?_ fun e => ?_
  · exact Serves.ret (begun_stable i) fun _ hx => hx
  · cases e <;> exact failed (Rows.Untried.stable i)

theorem serves_recordEvidence {f : Unit → Service α} {Q : α → Rows → Prop} (read : ReadBack)
    (hn : Serves q i s (Begun i) (f ()) (Yield Q)) :
    Serves q i s (Begun i) (commit s.id (.recordEvidence read) >>= f) (Yield Q) :=
  serves_commit _ rfl (begun_stable i) nofun (fun _ _ => trivial)
    (fun _ h _ => h.reattempt (fun _ => rfl) fun _ ha => ha) hn

/-- The new mutation names its own attempt, whatever was read. -/
theorem serves_recoveryRequest (change : ChangeColumns) (read : ReadBack) :
    Serves q i s (Begun i) (recoveryRequest i s.id change read)
      (Yield fun prepared x => Recovers i prepared.2 ∧ Begun i x) := by
  unfold recoveryRequest
  refine serves_reads (correlate_reads _) (begun_stable i) fun c => ?_
  repeat' split
  all_goals first
    | exact failed (begun_stable i)
    | exact Serves.ret (begun_stable i) fun _ hx => ⟨⟨rfl,rfl⟩,hx⟩

theorem serves_authoriseRetry (change : ChangeColumns) (read : ReadBack) :
    Serves q i s (Begun i) (authoriseRetry i s.id change read)
      (Yield fun m x => Recovers i m ∧ Authorised i x) := by
  unfold authoriseRetry
  refine serves_reads (planNow_reads _) (begun_stable i) fun _ => ?_
  refine andThen _ (serves_recoveryRequest change read) fun prepared => ?_
  refine Serves.extract (fun _ hx => hx.1) fun hm => Serves.pre ?_ fun _ hx => hx.2
  refine serves_commit (Authorised i) rfl (begun_stable i) nofun (fun _ _ => trivial)
    (fun _ h hreq => h.spendRecovery hreq.2 fun _ ha => ha) ?_
  exact Serves.ret (Rows.Opened.stable i _) fun _ hx => ⟨hm,hx⟩

theorem serves_refusingRetry {body : Service MutationRequest} {Q : MutationRequest → Rows → Prop}
    (h : Serves q i s P body (Yield Q)) (hQ : ∀ m, q.Stable i (Q m)) :
    Serves q i s P (refusingRetry s.id body) (Yield Q) := by
  unfold refusingRetry
  refine Serves.tryCatch h (fun m => Serves.ret (hQ m) fun _ hx => hx) fun e => ?_
  cases e with
  | refused code =>
    exact serves_commit _ rfl (true_stable i) nofun (fun _ _ => trivial) (fun _ _ _ => trivial) (failed (true_stable i))
  | integrity => exact failed (true_stable i)
  | assertion => exact failed (true_stable i)

theorem recoveryOutcomeFor_ne_inFlight (outcome : MutationOutcome) (verification : VerificationOutcome) :
    recoveryOutcomeFor outcome verification ≠ .inFlight := by
  cases outcome <;> cases verification <;> decide

/-- The hold is given back on an attempt of this request's own. -/
theorem runs_completeRecovery (outcome : RecoveryAttemptOutcome) : Runs q i s (Opener i) (completeRecovery s.id outcome) :=
  serves_commit (fun _ => True) rfl (opener_stable i) nofun (fun _ h => h) (fun _ _ _ => trivial)
    (Serves.ret (true_stable i) fun _ _ => trivial)

/-- Everything after the retry's dispatch is bookkeeping on the attempt it opened. -/
theorem runs_retried (run : RunRecord) (change : ChangeColumns) (report : MutationReport) :
    Runs q i s (Opener i) (do
      commit s.id (.recordRecovery report.outcome)
      if report.outcome ≠ .written then settleRetry s.id (recoveryOutcomeFor report.outcome .notAttempted)
      else
        let verified ← readBack run (appliedExpectation change)
        commit s.id (.recordRecoveryVerification verified)
        let outcome := recoveryOutcomeFor .written verified.outcome
        if outcome = .verified then completeRecovery s.id outcome else settleRetry s.id outcome) := by
  have hsettle : ∀ outcome ≠ .inFlight, Runs q i s (Opener i) (settleRetry s.id outcome) := fun outcome h => by
    have hharmless : (settleRetry s.id outcome).All (Op.Harmless s.id) :=
      (commit_harmless (by simpa [Commit.free] using h)).bind fun _ => trivial
    exact (runs_harmless hharmless).pre fun _ _ => trivial
  refine serves_commit (Opener i) rfl (opener_stable i) nofun (fun _ _ => trivial)
    (fun _ h _ => opener_reattempt h fun _ => rfl) ?_
  split
  · exact hsettle _ (recoveryOutcomeFor_ne_inFlight _ _)
  refine serves_reads (readBack_reads _ _) (opener_stable i) fun verified => ?_
  refine serves_commit (Opener i) rfl (opener_stable i) nofun (fun _ _ => trivial)
    (fun _ h _ => opener_reattempt h fun _ => rfl) ?_
  show Runs q i s (Opener i) (if _ then _ else _)
  split
  · exact runs_completeRecovery _
  · exact hsettle _ (recoveryOutcomeFor_ne_inFlight _ _)

theorem runs_recoveryRetry : Runs q i s (Rows.Untried i) (recoveryRetry i s.id) := by
  have hP : q.Stable i (Rows.Untried i) := Rows.Untried.stable i
  unfold recoveryRetry
  refine serves_reads (findChange_reads _) hP fun change => ?_
  refine serves_reads (ask_reads rfl) hP fun run => ?_
  refine serves_reads (requireExecutor_reads run) hP fun _ => ?_
  refine serves_reads (openHold_reads _) hP fun _ => ?_
  refine serves_reads (requireTarget_reads _) hP fun _ => ?_
  refine serves_reads (requireExecutablePreview_reads _) hP fun _ => ?_
  refine serves_reads (planNow_reads _) hP fun _ => ?_
  refine andThen _ serves_openRecoveryAttempt fun _ => ?_
  refine serves_reads (readBack_reads _ _) (begun_stable i) fun read => ?_
  refine serves_recordEvidence read ?_
  split
  · exact (runs_completeRecovery _).pre fun _ h => h.some
  refine serves_reads (requireTarget_reads _) (begun_stable i) fun _ => ?_
  refine andThen _ (serves_refusingRetry (serves_authoriseRetry change read) fun m => ?_) fun m => ?_
  · exact fun hr ha h => ⟨h.1,Rows.Opened.stable i _ hr ha h.2⟩
  refine Serves.extract (fun _ hx => hx.1) fun hm => Serves.pre ?_ fun _ hx => hx.2
  refine Serves.mutate (fun _ => Opener i) (Rows.Opened.stable i _) ?_ (fun _ _ _ h => h.some) fun report => ?_
  · intro x _ h
    obtain ⟨a,ha,ho⟩ := h.some
    refine ⟨fun call hc p o l he => ?_,?_⟩
    · subst he
      have hmem := (Rows.mem_callsOf rfl).mpr hc
      rw [h.uncalled] at hmem
      cases hmem
    · rw [hm.1]
      exact ⟨hm.2,a,ha,ho,(h.all a ha ho).1,(h.all a ha ho).2.2,(h.all a ha ho).2.1⟩
  · exact runs_retried run change report

end Service
end LocalPlane
