import LocalPlane.Faults
import LocalPlane.RecoveryService
import LocalPlane.Rows

/-!
# A recovery retry and what may disturb it

One retry of a held change runs against executors that answer as they like and may raise.
Beside it stand what was sent to the target, what was read of it, and whether anything
disturbed the request on its way.
-/

set_option linter.dupNamespace false

namespace LocalPlane

namespace Retrying

open Service (ask commit refuse judge appliedExpectation)

/-- What is asked of an object: a value, or a verb. -/
inductive Asked where
  | value (desired : Int)
  | verb (verb : String)
  deriving DecidableEq

def wanted : PlannedChange → Asked
  | .field _ _ desired => .value desired
  | .action verb _ _ => .verb verb

structure Sent where
  object : ObjectId
  asked : Asked
  deriving DecidableEq

/-- What the executor of the Run's operation hands on: the value of the request, or else its own verb. -/
def sends (w : World) (run : RunId) (m : MutationRequest) : Sent where
  object := (w.files run).object
  asked := match (w.files run).preview.change with
    | .field .. => .value ((m.write.map (·.2)).getD 0)
    | .action verb _ _ => .verb verb

/-- What the outside does at one step: it answers, or an executor raises. -/
structure Behaviour where
  outside : Outside := {}
  raises : Bool := false

/-- The call of an executor, or the recording of what it returned. -/
def executes : Op → Bool
  | .observe _ | .mutate .. => true
  | .commit _ (.recordEvidence _) | .commit _ (.recordRecovery _) | .commit _ (.recordRecoveryVerification _) => true
  | _ => false

/-- The world, with what was sent to the target and what was read of it. -/
structure Session where
  world : World
  sent : List Sent
  readings : List Observed

namespace Session

/-- A mutation that raises may have been carried out; a reading or a recording that raises leaves nothing. -/
def perform (i : RequestId) : (op : Op) → Behaviour → Session → Except Error op.Ret × Session
  | .mutate run m,b,s =>
    let answered := World.perform i (.mutate run m) b.outside s.world
    (if b.raises then .error .assertion else .ok answered.1,
      { s with world := answered.2, sent := s.sent ++ [sends s.world run m] })
  | .observe _,b,s =>
    if b.raises then (.error .assertion,s)
    else (.ok b.outside.observed,{ s with readings := s.readings ++ [b.outside.observed] })
  | op,b,s =>
    if executes op && b.raises then (.error .assertion,s)
    else
      let answered := World.perform i op b.outside s.world
      (.ok answered.1,{ s with world := answered.2 })

/-- What a reading of the target says of the end state the Run's change wanted. -/
def verdict (run : RunId) (observed : Observed) (s : Session) : Option VerificationOutcome :=
  (s.world.files run).rows.change.map fun ch =>
    (judge (s.world.files run).preview (appliedExpectation ch) observed).outcome

end Session

/-- No executor raises, and once a first reading was taken every lookup finds the target and every reading is judged. -/
def Undisturbed : Op → Behaviour → Session → Prop
  | .target _,b,s => s.readings ≠ [] → b.outside.target = true
  | .observe run,b,s => b.raises = false ∧ (s.readings ≠ [] → s.verdict run b.outside.observed ≠ some .notAttempted)
  | op,b,_ => executes op = true → b.raises = false

instance : ∀ (op : signature.Op) (b : Behaviour) (s : Session), Decidable (Undisturbed op b s) := by
  intro op b s
  cases op with
  | observe run => exact inferInstanceAs (Decidable (_ ∧ (_ → _)))
  | _ => exact inferInstanceAs (Decidable (_ → _))

/-- What a retry of the Run may send: nothing if its first reading proves the end state, and only what the change is for. -/
structure Faithful (r : RunId) (w : World) (sent : List Sent) (readings : List Observed) : Prop where
  proven : ∀ ch first, (w.files r).rows.change = some ch → readings.head? = some first →
    (judge (w.files r).preview (appliedExpectation ch) first).outcome.proved = true → sent = []
  faithful : ∀ x ∈ sent, ∃ ch, (w.files r).rows.change = some ch ∧ x = ⟨(w.files r).object,wanted ch.planned⟩

/-- What a retry of the Run owes, from the world it was received in. -/
structure Disciplined (i : RequestId) (r : RunId) (w : World) (s : Session) : Prop extends Faithful r w s.sent s.readings where
  settled : ∀ a ∈ (s.world.files r).rows.attempts, a.openedBy = i → a.outcome ≠ .inFlight
  released : (w.locks.forRun r).isSome → ((s.world.locks.forRun r).isNone ↔
    ∃ a ∈ (s.world.files r).rows.attempts, a.openedBy = i ∧ (a.outcome = .proven ∨ a.outcome = .verified))

/-- The request runs, its monitor beside it, to an end of that kind. -/
def Ends {α : Type} (i : RequestId) (p : Service α) (Q : Except Error α → Session × Bool → Prop) (s : Session)
    (kept : Bool) : Prop :=
  p.fallible.Always (Program.watched (Session.perform i) Undisturbed) (fun _ _ _ => True) Q (s,kept)

section Steps

variable {α β : Type} {i : RequestId} {r : RunId} {s : Session} {kept : Bool} {Q : Except Error α → Session × Bool → Prop}

theorem ends_bind {p : Service β} {f : β → Service α}
    (h : Ends i p (Program.Either (fun x v => Ends i (f x) Q v.1 v.2) fun e => Q (.error e)) s kept) :
    Ends i (p >>= f) Q s kept := by
  unfold Ends
  rw [Program.fallible_bind]
  exact Program.Always.bind h

theorem ends_act {op : Op} {k : op.Ret → Service α}
    (hok : ∀ b answer, (Session.perform i op b s).1 = .ok answer →
      Ends i (k answer) Q (Session.perform i op b s).2 (kept && decide (Undisturbed op b s)))
    (herror : ∀ b e, (Session.perform i op b s).1 = .error e →
      Q (.error e) ((Session.perform i op b s).2,kept && decide (Undisturbed op b s))) : Ends i (.act op k) Q s kept :=
  Program.Always.fallible_act hok herror

/-- A step in which no executor is called, nothing of its is recorded, and the target is not looked for. -/
def quiet : Op → Bool
  | .target _ => false
  | op => !executes op

theorem executes_of_quiet {op : Op} (hop : quiet op = true) : executes op = false := by
  cases op with
  | target _ => cases hop
  | _ => simpa [quiet] using hop

theorem ends_quiet (op : Op) {k : op.Ret → Service α} (hop : quiet op = true)
    (h : ∀ o, Ends i (k (World.perform i op o s.world).1) Q { s with world := (World.perform i op o s.world).2 } kept) :
    Ends i (.act op k) Q s kept := by
  have hno := executes_of_quiet hop
  have hperform : ∀ b, Session.perform i op b s = (.ok (World.perform i op b.outside s.world).1,
      { s with world := (World.perform i op b.outside s.world).2 }) := by
    intro b
    cases op with
    | observe _ | mutate _ _ => cases hno
    | _ => simp [Session.perform,hno]
  have hrule : ∀ b, Undisturbed op b s := by
    intro b
    cases op with
    | target _ => cases hop
    | observe _ => cases hno
    | _ => exact fun h => absurd h (by simp [hno])
  refine ends_act (fun b answer ha => ?_) (fun b e he => ?_)
  · rw [hperform] at ha ⊢
    cases ha
    simp only [hrule b,decide_true,Bool.and_true]
    exact h b.outside
  · rw [hperform] at he
    cases he

/-- A quiet step raises nothing. -/
theorem quiet_answers {op : Op} (hop : quiet op = true) (b : Behaviour) (e : Error) :
    (Session.perform i op b s).1 ≠ .error e := by
  have hno := executes_of_quiet hop
  cases op with
  | observe _ | mutate _ _ => cases hno
  | _ => simp [Session.perform,hno]

theorem ends_target {k : Bool → Service α} (hfound : Ends i (k true) Q s kept)
    (hmissing : Ends i (k false) Q s (kept && decide (s.readings = []))) : Ends i (.act (.target r) k) Q s kept := by
  refine ends_act (fun b answer ha => ?_) (fun b e he => ?_)
  · have hanswer : answer = b.outside.target := by
      cases ha
      rfl
    have hsame : (Session.perform i (.target r) b s).2 = s := rfl
    rw [hsame,hanswer]
    cases ht : b.outside.target with
    | true => simpa [Undisturbed,ht] using hfound
    | false => simpa [Undisturbed,ht] using hmissing
  · cases he

theorem ends_observe {k : Observed → Service α} (hraised : Q (.error .assertion) (s,false))
    (h : ∀ observed, Ends i (k observed) Q { s with readings := s.readings ++ [observed] }
      (kept && decide (s.readings ≠ [] → s.verdict r observed ≠ some .notAttempted))) :
    Ends i (.act (.observe r) k) Q s kept := by
  refine ends_act (fun b answer ha => ?_) (fun b e he => ?_)
  · cases hb : b.raises with
    | true => simp [Session.perform,hb] at ha
    | false =>
      simp only [Session.perform,hb] at ha ⊢
      cases ha
      simpa [Undisturbed,hb] using h b.outside.observed
  · cases hb : b.raises with
    | true =>
      simp only [Session.perform,hb] at he ⊢
      cases he
      simpa [Undisturbed,hb] using hraised
    | false => simp [Session.perform,hb] at he

/-- A dispatch leaves what it sent, whether it answers or raises. -/
theorem ends_mutate {m : MutationRequest} {k : MutationReport → Service α}
    (hraised : ∀ o, Q (.error .assertion)
      (⟨(World.perform i (.mutate r m) o s.world).2,s.sent ++ [sends s.world r m],s.readings⟩,false))
    (h : ∀ o, Ends i (k ⟨o.outcome,o.provider⟩) Q
      ⟨(World.perform i (.mutate r m) o s.world).2,s.sent ++ [sends s.world r m],s.readings⟩ kept) :
    Ends i (.act (.mutate r m) k) Q s kept := by
  refine ends_act (fun b answer ha => ?_) (fun b e he => ?_)
  · cases hb : b.raises with
    | true => simp [Session.perform,hb] at ha
    | false =>
      simp only [Session.perform,hb] at ha ⊢
      cases ha
      simpa [Undisturbed,hb,World.perform] using h b.outside
  · cases hb : b.raises with
    | true =>
      simp only [Session.perform,hb] at he ⊢
      cases he
      simpa [Undisturbed,executes,hb] using hraised b.outside
    | false => simp [Session.perform,hb] at he

/-- A commit is carried out, or raises before it is if it records what an executor returned. -/
theorem ends_commit {c : Commit} {k : Except Error Unit → Service α} {x : Except Error Unit} {v : World}
    (hc : s.world.commit i r c = (x,v)) (hraised : executes (.commit r c) = true → Q (.error .assertion) (s,false))
    (h : Ends i (k x) Q { s with world := v } kept) : Ends i (.act (.commit r c) k) Q s kept := by
  cases hexec : executes (.commit r c) with
  | false =>
    refine ends_quiet _ (by simp [quiet,hexec]) fun o => ?_
    show Ends i (k (s.world.commit i r c).1) Q { s with world := (s.world.commit i r c).2 } kept
    rw [hc]
    exact h
  | true =>
    refine ends_act (fun b answer ha => ?_) (fun b e he => ?_)
    · cases hb : b.raises with
      | true => simp [Session.perform,hexec,hb] at ha
      | false =>
        simp only [Session.perform,hexec,hb] at ha ⊢
        cases ha
        simp only [Undisturbed,hexec,hb,World.perform,hc]
        simpa using h
    · cases hb : b.raises with
      | true =>
        simp only [Session.perform,hexec,hb] at he ⊢
        cases he
        simpa [Undisturbed,hexec,hb] using hraised hexec
      | false => simp [Session.perform,hexec,hb] at he

/-- What records no executor's return cannot raise. -/
theorem ends_unraised {c : Commit} {k : Except Error Unit → Service α} {x : Except Error Unit} {v : World}
    (hc : s.world.commit i r c = (x,v)) (hexec : executes (.commit r c) = false)
    (h : Ends i (k x) Q { s with world := v } kept) : Ends i (.act (.commit r c) k) Q s kept :=
  ends_commit hc (fun hraises => absurd (hexec.symm.trans hraises) Bool.false_ne_true) h

end Steps

end Retrying
end LocalPlane
