import LocalPlane.InterruptedAttempts

/-!
# The row a recovery retry writes

A retry has one row of its own among the attempts of its Run, the last one. The rows it goes
through satisfy the checks of the store, and so does every ending but that of a write whose
verification was never judged.
-/

set_option linter.dupNamespace false

namespace LocalPlane

namespace AttemptColumns

/-- What a retry's own row has come to: what was read, what was spent and sent, what came of it, and what was read after. -/
def seen (i : RequestId) (n : ℕ) (read : ReadBack) : AttemptColumns :=
  { fresh i .retry n with evidence := read.outcome, evidenceObservation := read.observation }

def dispatched (i : RequestId) (grantedBy : RequestId) (correlation : Correlation) (a : AttemptColumns) : AttemptColumns :=
  { a with authority := some grantedBy, correlation := some correlation, mutationAttempt := some (.retry i), dispatchBegan := true }

def answered (outcome : MutationOutcome) (a : AttemptColumns) : AttemptColumns :=
  { a with mutation := some outcome, hostEffect := hostEffectFor outcome }

def reread (read : ReadBack) (a : AttemptColumns) : AttemptColumns :=
  { a with verification := read.outcome, verificationObservation := read.observation }

/-- And how it is ended: kept, refused, or with the hold released. -/
def closedAs (outcome : RecoveryAttemptOutcome) (a : AttemptColumns) : AttemptColumns := { a with outcome, finished := true }

def refusedWith (code : String) (a : AttemptColumns) : AttemptColumns :=
  { a with outcome := .refused, refusalCode := some code, finished := true }

def releasing (outcome : RecoveryAttemptOutcome) (a : AttemptColumns) : AttemptColumns :=
  { a with outcome, releasesHold := true, finished := true }

variable {i g : RequestId} {n : ℕ} {c : Correlation} {read again : ReadBack} {outcome : MutationOutcome}

theorem check_seen : (seen i n read).check = true := by
  simp [check,resolveCheck,outcomeCheck,fresh,seen,RecoveryAttemptOutcome.releasesHold]

theorem check_proven (h : read.outcome = .verified) (ho : read.observation.isSome = true) :
    ((seen i n read).releasing .proven).check = true := by
  simp [check,resolveCheck,outcomeCheck,fresh,seen,releasing,RecoveryAttemptOutcome.releasesHold,h,ho]

theorem check_refused (code : String) : ((seen i n read).refusedWith code).check = true := by
  simp [check,resolveCheck,outcomeCheck,fresh,seen,refusedWith,RecoveryAttemptOutcome.releasesHold]

theorem check_dispatched : ((seen i n read).dispatched i g c).check = true := by
  simp [check,resolveCheck,outcomeCheck,fresh,seen,dispatched,RecoveryAttemptOutcome.releasesHold]

theorem check_answered : (((seen i n read).dispatched i g c).answered outcome).check = true := by
  cases outcome <;>
    simp [check,resolveCheck,outcomeCheck,fresh,seen,dispatched,answered,hostEffectFor,RecoveryAttemptOutcome.releasesHold]

theorem check_unwritten (h : outcome ≠ .written) :
    ((((seen i n read).dispatched i g c).answered outcome).closedAs (recoveryOutcomeFor outcome .notAttempted)).check = true := by
  cases outcome with
  | written => exact absurd rfl h
  | notWritten | writeUnknown =>
    simp [check,resolveCheck,outcomeCheck,fresh,seen,dispatched,answered,closedAs,hostEffectFor,recoveryOutcomeFor,
      RecoveryAttemptOutcome.releasesHold]

theorem check_reread : ((((seen i n read).dispatched i g c).answered outcome).reread again).check = true := by
  cases outcome <;>
    simp [check,resolveCheck,outcomeCheck,fresh,seen,dispatched,answered,reread,hostEffectFor,
      RecoveryAttemptOutcome.releasesHold]

theorem check_verified (h : again.outcome = .verified) (ho : again.observation.isSome = true) :
    (((((seen i n read).dispatched i g c).answered .written).reread again).releasing .verified).check = true := by
  simp [check,resolveCheck,outcomeCheck,fresh,seen,dispatched,answered,reread,releasing,hostEffectFor,
    RecoveryAttemptOutcome.releasesHold,h,ho]

/-- A written mutation that is not proven by what was read after is recorded so, if it was judged at all. -/
theorem check_unproven (h : again.outcome ≠ .verified) :
    (((((seen i n read).dispatched i g c).answered .written).reread again).closedAs .notProven).check = true ↔
      again.outcome ≠ .notAttempted := by
  simp [check,resolveCheck,outcomeCheck,fresh,seen,dispatched,answered,reread,closedAs,hostEffectFor,
    RecoveryAttemptOutcome.releasesHold,h]
  exact decide_eq_true_iff

end AttemptColumns

section Last

variable {rest : List AttemptColumns} {a : AttemptColumns} (update : AttemptColumns → AttemptColumns)

/-- Other attempts than the one of this request: opened by somebody else, settled, and releasing nothing. -/
def Settled (i : RequestId) (rest : List AttemptColumns) : Prop :=
  ∀ b ∈ rest, b.openedBy ≠ i ∧ b.moving = false ∧ b.releasesHold = false

theorem find_last (hrest : Settled a.openedBy rest) : (rest ++ [a]).find? (·.openedBy = a.openedBy) = some a := by
  have hnone : rest.find? (·.openedBy = a.openedBy) = none :=
    List.find?_eq_none.mpr fun b hb => by simpa using (hrest b hb).1
  rw [List.find?_append,hnone]
  simp

theorem map_last (hrest : Settled a.openedBy rest) (c : AttemptColumns) :
    (rest ++ [a]).map (fun b => if b.openedBy = a.openedBy then c else b) = rest ++ [c] := by
  have hsame : rest.map (fun b => if b.openedBy = a.openedBy then c else b) = rest :=
    (List.map_congr_left fun b hb => if_neg (hrest b hb).1).trans (List.map_id' _)
  rw [List.map_append,hsame]
  simp

theorem Rows.reattempt_last {x : Rows} (hx : x.attempts = rest ++ [a]) (hrest : Settled a.openedBy rest) :
    x.reattempt a.openedBy update = { x with attempts := rest ++ [update a] } := by
  unfold Rows.reattempt
  rw [hx,find_last hrest]
  exact congrArg (fun l => { x with attempts := l }) (map_last hrest _)

namespace RunFile

variable {f : RunFile}

theorem fit_of_last {l : List Attempt} {c : AttemptColumns} (hl : l.map (·.1) = rest ++ [c])
    (h : ∀ b ∈ rest, b.moving = false ∧ b.releasesHold = false) : attemptsFit l = true := by
  have hlength (p : AttemptColumns → Bool) (hp : ∀ b ∈ rest, p b = false) : (l.filter fun b => p b.1).length ≤ 1 := by
    have hmap : (l.filter fun b => p b.1).length = ((l.map (·.1)).filter p).length := by
      rw [List.filter_map,List.length_map]
      rfl
    have hnone : rest.filter p = [] := List.filter_eq_nil_iff.mpr fun b hb => by simp [hp b hb]
    rw [hmap,hl,List.filter_append,hnone,List.nil_append]
    exact List.length_filter_le p [c]
  simp only [attemptsFit,Bool.and_eq_true,decide_eq_true_eq]
  exact ⟨hlength (·.moving) fun b hb => (h b hb).1,hlength (·.releasesHold) fun b hb => (h b hb).2⟩

theorem found_last (hf : f.rows.attempts = rest ++ [a]) (hrest : Settled a.openedBy rest) :
    ∃ b, f.attempts.find? (·.1.openedBy = a.openedBy) = some b ∧ b.1 = a := by
  have hfind : f.rows.attempts.find? (·.openedBy = a.openedBy) = some a := by
    rw [hf]
    exact find_last hrest
  rw [rows_find] at hfind
  exact Option.map_eq_some_iff.mp hfind

/-- The store takes an update of the attempt under way that its checks and its triggers accept. -/
theorem updateAttempt_last (hf : f.rows.attempts = rest ++ [a]) (hrest : Settled a.openedBy rest) (hin : a.outcome = .inFlight)
    (hcheck : (update a).check = true) (hauthorised : f.authorised (update a) = true) :
    ∃ f', f.updateAttempt a.openedBy update = .ok f' := by
  obtain ⟨b,hb,rfl⟩ := found_last hf hrest
  have hmap : (f.replaceAttempt b.1.openedBy ⟨update b.1,hcheck⟩).map (·.1) = rest ++ [update b.1] := by
    have hrows : (f.replaceAttempt b.1.openedBy ⟨update b.1,hcheck⟩).map (·.1) =
        f.rows.attempts.map fun c => if c.openedBy = b.1.openedBy then update b.1 else c := by
      simp only [rows,replaceAttempt,List.map_map]
      exact List.map_congr_left fun c _ => by simp only [Function.comp_apply]; split <;> rfl
    rw [hrows,hf,map_last hrest]
  exact ⟨_,updateAttempt_accepted hb hin hcheck hauthorised (fit_of_last hmap fun c hc => (hrest c hc).2)⟩

/-- One that the checks refuse is refused. -/
theorem updateAttempt_refused (hf : f.rows.attempts = rest ++ [a]) (hrest : Settled a.openedBy rest)
    (hcheck : (update a).check = false) : f.updateAttempt a.openedBy update = .error .integrity := by
  obtain ⟨b,hb,rfl⟩ := found_last hf hrest
  unfold updateAttempt
  rw [hb]
  exact dif_neg (by simp [hcheck])

theorem authorised_grants {f g : RunFile} (h : f.rows.grants = g.rows.grants) (a : AttemptColumns) :
    f.authorised a = g.authorised a := by
  have hgrants : f.grants = g.grants := h
  unfold authorised
  rw [hgrants]

end RunFile
end Last

end LocalPlane
