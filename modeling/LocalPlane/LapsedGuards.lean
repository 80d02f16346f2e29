import LocalPlane.GuardSettlement
import LocalPlane.MutationChain
import LocalPlane.Provenance
import Mathlib.Algebra.Group.Int.Defs

/-!
# From a holder's answer to the end of a lapsed guard

What the agent answers about a guard is read into a report, and the report settles the
change the guard watched. Reading may raise, and the store takes some of what was read
as it stands; everything else ends as the report and a reading of the target say.
-/

set_option linter.dupNamespace false

namespace LocalPlane

/-- Every run of the program ends in an error. -/
def Program.Fails {S : Signature} {ε α : Type} : Program S ε α → Prop
  | .ret (.ok _) => False
  | .ret (.error _) => True
  | .act _ next => ∀ answer, (next answer).Fails

namespace Program

variable {S : Signature} {ε α β W O : Type} {perform : (op : S.Op) → O → W → S.Ret op × W}

theorem Fails.bind (p : Program S ε α) {f : α → Program S ε β} (h : ∀ a, (f a).Fails) : (p >>= f).Fails := by
  induction p with
  | ret x =>
    cases x with
    | ok a => exact h a
    | error e => trivial
  | act op next ih => exact fun answer => ih answer

theorem Fails.exec {p : Program S ε α} (hp : p.Fails) (oracle : ℕ → O) (w : W) :
    ∃ e, (p.exec perform oracle w).1 = .error e := by
  induction p generalizing oracle w with
  | ret x =>
    cases x with
    | ok a => exact hp.elim
    | error e => exact ⟨e,rfl⟩
  | act op next ih => exact ih _ (hp _) _ _

theorem Fails.not_always {p : Program S ε α} (hp : p.Fails) (oracle : ℕ → O) {Q : Except ε α → W → Prop} {w : W}
    (hQ : ∀ x v, Q x v → ∃ a, x = .ok a) : ¬p.Always perform (fun _ _ _ => True) Q w := by
  intro h
  obtain ⟨a,ha⟩ := hQ _ _ (h.exec oracle)
  obtain ⟨e,he⟩ : ∃ e, (p.exec perform oracle w).1 = .error e := hp.exec oracle w
  rw [ha] at he
  cases he

end Program

namespace LapsedGuards

open LineProtocol (Json Fields)
open Interleaved

/-! The report of an answer -/

/-- A call that failed, as the client raises it. -/
structure AgentError where
  code : String
  message : String
  detail : Json

def AgentError.asDict (e : AgentError) : Json := .obj [("code",.str e.code),("message",.str e.message),("detail",e.detail)]

/-- What became of the write a guard dispatched. -/
structure ReversalReport where
  outcome : MutationOutcome
  reason : String
  attemptId : String
  provider : Json := .null
  providerVersion : Json := .null
  method : Json := .null
  detail : Fields

/-- A guard's phase; one that fired comes with its reversal. -/
inductive Told where
  | arming | armed | disarmed | lost | unreachable
  | fired (mutation : ReversalReport)

structure HolderReport where
  told : Told
  holderId : Json := .null
  firedAt : Json := .null
  reason : Option String := none
  detail : Fields

section
variable (print : Json → String)

/-- `str(value or default)`. -/
def printedOr (default : String) (value : Json) : String := if truthy value then print value else default

/-- A guard that fired and cannot say what its reversal did dispatched it. -/
def reversalReport (requestId : String) : Json → ReversalReport
  | .obj mutation =>
    match Chain.parseOutcome (mutation.lookup "outcome") with
    | none => {
        outcome := .writeUnknown
        reason := "unreadable_guard_reversal"
        attemptId := printedOr print requestId (fact mutation "attempt_id")
        detail := [("mutation",.obj mutation)] }
    | some outcome => {
        outcome
        reason := printedOr print "unstated" (fact mutation "reason")
        attemptId := printedOr print requestId (fact mutation "attempt_id")
        provider := fact mutation "provider"
        providerVersion := fact mutation "provider_version"
        method := fact mutation "method"
        detail := [("ifindex",fact mutation "ifindex"),("observed_name",fact mutation "observed_name"),
          ("observed_mtu",fact mutation "observed_mtu"),("kernel_errno",fact mutation "kernel_errno"),
          ("kernel_error",fact mutation "kernel_error"),
          ("helper_detail",if truthy (fact mutation "detail") then fact mutation "detail" else .obj [])] }
  | mutation => {
      outcome := .writeUnknown
      reason := "unreadable_guard_reversal"
      attemptId := requestId
      detail := [("mutation",mutation)] }

def phaseText : GuardPhase → String
  | .arming => "arming"
  | .armed => "armed"
  | .disarmed => "disarmed"
  | .fired => "fired"
  | .lost => "lost"
  | .unreachable => "unreachable"

def parsePhase : Json → Option GuardPhase
  | .str text => [.arming,.armed,.disarmed,.fired,.lost,.unreachable].find? (phaseText · = text)
  | _ => none

def told (guardId : String) (guard : Fields) : GuardPhase → Told
  | .arming => .arming
  | .armed => .armed
  | .disarmed => .disarmed
  | .lost => .lost
  | .unreachable => .unreachable
  | .fired => .fired (reversalReport print guardId (fact guard "mutation"))

/-- `answer.get("guard") or {}`, and nothing where what is made of it raises. -/
def guardMember (answer : Fields) : Option Fields :=
  match fact answer "guard" with
  | .obj guard => some guard
  | other => if truthy other then none else some []

/-- One reading of a guard's phase; nothing where the reading raises. -/
def guardReport (guardId : String) : Except AgentError Fields → Option HolderReport
  | .error e => some {
      told := .unreachable
      reason := some e.code
      detail := [("agent_error",e.asDict),("guard_id",.str guardId)] }
  | .ok answer => (guardMember answer).map fun guard =>
    match parsePhase (fact guard "phase") with
    | none => { told := .unreachable, reason := some "unreadable_guard_phase", detail := [("guard",.obj guard)] }
    | some phase => {
        told := told print guardId guard phase
        holderId := fact answer "agent_instance_id"
        firedAt := fact guard "fired_at"
        detail := [("guard_id",.str guardId),("expires_at",fact guard "expires_at"),("window_s",fact guard "window_s")] }

end

/-! What a settled guard means -/

inductive GuardSettlement where
  | kept | reverted | reversalUnproven | guardLost | guardUnreachable
  deriving DecidableEq

/-- What a settled guard's report means, given whether a reading proved the reversal. -/
def settle (report : GuardReport) (reversalProved : Bool) : GuardSettlement :=
  match report with
  | .disarmed => .kept
  | .fired _ => if report.reverted && reversalProved then .reverted else .reversalUnproven
  | .lost => .guardLost
  | .armed | .unreachable => .guardUnreachable

/-- A change is restored exactly where the settlement says so. -/
theorem settle_reverted (report : GuardReport) (shown : VerificationOutcome) :
    settle report shown.proved = .reverted ↔ Service.lapseEnding report shown = (.rolledBack,.rolledBack,none) := by
  cases report <;> simp [settle,Service.lapseEnding,GuardReport.reverted,GuardReport.reversal]

/-! Settling -/

open Service (ask commit)

/-- The texts the store's driver can encode; plain ones it can. -/
structure TextBinding where
  accepts : String → Bool
  ascii : ∀ text : String, text.toList.all (·.val < 128) → accepts text

/-- What a text column takes: no list and no object, and integers of 64 bits. -/
def TextBinding.column (binding : TextBinding) : Json → Bool
  | .null | .bool _ => true
  | .num value => -2 ^ 63 ≤ value ∧ value < 2 ^ 63
  | .str text => binding.accepts text
  | .arr _ | .obj _ => false

/-- The report the engine's rows are written from; no row can say a guard is still arming. -/
def Told.report : Told → Option GuardReport
  | .arming => none
  | .armed => some .armed
  | .disarmed => some .disarmed
  | .lost => some .lost
  | .unreachable => some .unreachable
  | .fired mutation => some (.fired mutation.outcome)

/-- The columns written as the holder put them can be bound: when the guard fired and why its reversal ended as it
did, or else why nothing more is known. -/
def HolderReport.storable (binding : TextBinding) (h : HolderReport) : Bool :=
  match h.told with
  | .fired mutation => (!truthy h.firedAt || binding.column h.firedAt) && binding.accepts mutation.reason
  | _ => h.reason.all fun reason => reason = "" || binding.accepts reason

/-- A report the store refuses stops the settlement, after a reversal was announced where there is one. -/
def settleRefused (run : RunRecord) (fired : Bool) : Service Service.Ended := do
  match ← ask (.checkpoint run.id) with
  | none => throw .assertion
  | some _ =>
    if fired then commit run.id (.startLapse run.state)
    throw .integrity

def settleReported (binding : TextBinding) (run : RunRecord) (change : ChangeColumns) (guard : GuardColumns)
    (h : HolderReport) : Service Service.Ended :=
  match h.told.report with
  | none => settleRefused run false
  | some report =>
    if h.storable binding then Service.settleLapsed run change guard report
    else settleRefused run report.reversal.isSome

/-- Settle a lapsed guard from what its holder answered. What reading the answer raises is caught nowhere. -/
def settleAnswered (print : Json → String) (binding : TextBinding) (guardId : String) (run : RunRecord)
    (change : ChangeColumns) (guard : GuardColumns) (answer : Except AgentError Fields) : Service Service.Ended :=
  match guardReport print guardId answer with
  | none => throw .assertion
  | some h => settleReported binding run change guard h

/-! What the answer says -/

/-- A member of the guard the answer tells about. -/
def said (answer : Except AgentError Fields) (key : String) : Json :=
  match answer with
  | .error _ => .null
  | .ok answer =>
    match fact answer "guard" with
    | .obj guard => fact guard key
    | _ => .null

def saidOutcome (answer : Except AgentError Fields) : Json :=
  match said answer "mutation" with
  | .obj mutation => fact mutation "outcome"
  | _ => .null

/-- The report is the one the answer gives: each definite one exactly where the answer spells it. -/
structure Says (answer : Except AgentError Fields) (report : GuardReport) : Prop where
  armed : report = .armed ↔ said answer "phase" = .str "armed"
  disarmed : report = .disarmed ↔ said answer "phase" = .str "disarmed"
  lost : report = .lost ↔ said answer "phase" = .str "lost"
  fired : (∃ outcome, report = .fired outcome) ↔ said answer "phase" = .str "fired"
  outcome : ∀ outcome, outcome ≠ .writeUnknown → (report = .fired outcome ↔ said answer "phase" = .str "fired" ∧
    saidOutcome answer = .str (Chain.outcomeText outcome))

/-- The answer has no guard that is no object, its phase is not arming, and the texts of a failed call, or the time and
the reason of a firing, are such as the store takes. -/
def Readable (print : Json → String) (binding : TextBinding) : Except AgentError Fields → Prop
  | .error e => e.code = "" ∨ binding.accepts e.code
  | .ok answer => ∃ guard, guardMember answer = some guard ∧ fact guard "phase" ≠ .str "arming" ∧
    (fact guard "phase" = .str "fired" → (truthy (fact guard "fired_at") → binding.column (fact guard "fired_at")) ∧
      ∀ mutation, fact guard "mutation" = .obj mutation → (Chain.parseOutcome (mutation.lookup "outcome")).isSome →
        truthy (fact mutation "reason") → binding.accepts (print (fact mutation "reason")))

variable {print : Json → String} {binding : TextBinding} {guardId : String} {answer : Except AgentError Fields}

theorem parseOutcome_iff {said : Option Json} {outcome : MutationOutcome} :
    Chain.parseOutcome said = some outcome ↔ said = some (.str (Chain.outcomeText outcome)) := by
  constructor
  · intro h
    cases said with
    | none => cases h
    | some said =>
      cases said with
      | str text =>
        simp only [Chain.parseOutcome] at h
        split_ifs at h with h₁ h₂ h₃ <;> cases h <;> simp_all [Chain.outcomeText]
      | _ => cases h
  · rintro rfl
    exact Chain.parseOutcome_text outcome

theorem fact_str {fields : Fields} {key text : String} : fact fields key = .str text ↔ fields.lookup key = some (.str text) := by
  unfold fact
  cases fields.lookup key <;> simp

/-- What a reversal definitely came to was spelled by its holder. -/
theorem reversalReport_outcome {mutation : Json} {outcome : MutationOutcome} (hu : outcome ≠ .writeUnknown) :
    (reversalReport print guardId mutation).outcome = outcome ↔
      (match mutation with | .obj mutation => fact mutation "outcome" | _ => .null) = .str (Chain.outcomeText outcome) := by
  cases mutation with
  | obj mutation =>
    simp only [reversalReport]
    rw [fact_str,← parseOutcome_iff]
    cases Chain.parseOutcome (mutation.lookup "outcome") with
    | none => simp [hu.symm]
    | some told => simp
  | _ => simp [reversalReport,hu.symm]

/-- Why a reversal ended as it did is the code's own plain text, or the holder's. -/
theorem reversalReport_reason {mutation : Json} : binding.accepts (reversalReport print guardId mutation).reason ↔
    ∀ fields, mutation = .obj fields → (Chain.parseOutcome (fields.lookup "outcome")).isSome →
      truthy (fact fields "reason") → binding.accepts (print (fact fields "reason")) := by
  have hplain : ∀ text : String, text.toList.all (·.val < 128) → binding.accepts text := binding.ascii
  cases mutation with
  | obj fields =>
    simp only [reversalReport,Json.obj.injEq,forall_eq']
    cases Chain.parseOutcome (fields.lookup "outcome") with
    | none => simp [hplain "unreadable_guard_reversal" (by decide)]
    | some outcome =>
      by_cases ht : truthy (fact fields "reason")
      · simp [printedOr,ht]
      · simp [printedOr,ht,hplain "unstated" (by decide)]
  | _ => simp [reversalReport,hplain "unreadable_guard_reversal" (by decide)]

theorem said_member {answer guard : Fields} (h : guardMember answer = some guard) (key : String) :
    said (.ok answer) key = fact guard key := by
  unfold guardMember at h
  simp only [said]
  split at h
  · cases h
    rfl
  · next hno =>
    split at h
    · cases h
    · cases h
      cases hguard : fact answer "guard" <;> simp_all [fact]

theorem parsePhase_iff {phase : GuardPhase} {said : Json} : parsePhase said = some phase ↔ said = .str (phaseText phase) := by
  cases said with
  | str text =>
    simp only [parsePhase,Json.str.injEq]
    constructor
    · intro h
      have hfound := List.find?_some h
      simpa using (of_decide_eq_true hfound).symm
    · rintro rfl
      cases phase <;> rfl
  | _ => simp [parsePhase]

/-- The phase that was read is the one the guard spells. -/
theorem told_report {guard : Fields} {phase : GuardPhase} {report : GuardReport}
    (h : (told print guardId guard phase).report = some report) :
    (report = .armed ↔ phase = .armed) ∧ (report = .disarmed ↔ phase = .disarmed) ∧ (report = .lost ↔ phase = .lost) ∧
    ∀ outcome, report = .fired outcome ↔ phase = .fired ∧ (reversalReport print guardId (fact guard "mutation")).outcome = outcome := by
  cases phase <;> simp only [told,Told.report,Option.some.injEq,reduceCtorEq] at h <;> simp [← h]

theorem says_of_report {h : HolderReport} {report : GuardReport} (hh : guardReport print guardId answer = some h)
    (hr : h.told.report = some report) : Says answer report := by
  cases answer with
  | error e =>
    cases hh
    cases hr
    constructor <;> simp [said]
  | ok answer =>
    obtain ⟨guard,hguard,rfl⟩ := Option.map_eq_some_iff.mp hh
    have hsaid := said_member hguard
    have hphase : ∀ phase, said (.ok answer) "phase" = .str (phaseText phase) ↔ parsePhase (fact guard "phase") = some phase :=
      fun phase => by rw [hsaid,parsePhase_iff]
    have harmed : said (.ok answer) "phase" = .str "armed" ↔ _ := hphase .armed
    have hdisarmed : said (.ok answer) "phase" = .str "disarmed" ↔ _ := hphase .disarmed
    have hlost : said (.ok answer) "phase" = .str "lost" ↔ _ := hphase .lost
    have hfired : said (.ok answer) "phase" = .str "fired" ↔ _ := hphase .fired
    cases hp : parsePhase (fact guard "phase") with
    | none =>
      rw [hp] at hr harmed hdisarmed hlost hfired
      cases hr
      constructor <;> simp [harmed,hdisarmed,hlost,hfired]
    | some phase =>
      rw [hp] at hr harmed hdisarmed hlost hfired
      obtain ⟨hreports,hreports',hreports'',hreversal⟩ := told_report hr
      refine {
        armed := by simp [hreports,harmed]
        disarmed := by simp [hreports',hdisarmed]
        lost := by simp [hreports'',hlost]
        fired := by simp [hreversal,hfired]
        outcome := fun outcome hu => ?_ }
      rw [hreversal,hfired,reversalReport_outcome hu,saidOutcome,hsaid,Option.some.injEq]

/-- Where the answer can be read, and only there, there is a report that the store takes. -/
theorem readable_iff : Readable print binding answer ↔
    ∃ h, guardReport print guardId answer = some h ∧ h.told.report.isSome ∧ h.storable binding := by
  cases answer with
  | error e => simp [Readable,guardReport,Told.report,HolderReport.storable]
  | ok answer =>
    simp only [Readable,guardReport,Option.map_eq_some_iff,exists_exists_and_eq_and]
    refine exists_congr fun guard => and_congr_right fun _ => ?_
    have hplain : binding.accepts "unreadable_guard_phase" := binding.ascii _ (by decide)
    have harming : parsePhase (fact guard "phase") = some .arming ↔ fact guard "phase" = .str "arming" := parsePhase_iff
    have hfired : parsePhase (fact guard "phase") = some .fired ↔ fact guard "phase" = .str "fired" := parsePhase_iff
    rw [ne_eq,← harming,← hfired]
    cases hp : parsePhase (fact guard "phase") with
    | none => simp [Told.report,HolderReport.storable,hplain]
    | some phase =>
      by_cases ht : truthy (fact guard "fired_at") <;>
        cases phase <;> simp [told,Told.report,HolderReport.storable,reversalReport_reason,ht]

/-! What cannot be read stops the settlement -/

theorem settleRefused_fails (run : RunRecord) (fired : Bool) : (settleRefused run fired).Fails := by
  unfold settleRefused
  refine Program.Fails.bind _ fun checkpoint => ?_
  cases checkpoint with
  | none => trivial
  | some _ =>
    cases fired with
    | false => trivial
    | true => exact fun answer => by cases answer <;> trivial

theorem settleAnswered_fails (h : ¬Readable print binding answer) (run : RunRecord) (change : ChangeColumns) (guard : GuardColumns) :
    (settleAnswered print binding guardId run change guard answer).Fails := by
  unfold settleAnswered
  cases hh : guardReport print guardId answer with
  | none => trivial
  | some read =>
    show (settleReported binding run change guard read).Fails
    unfold settleReported
    cases hr : read.told.report with
    | none => exact settleRefused_fails run false
    | some report =>
      have hno : ¬read.storable binding = true := fun hs => h (readable_iff.mpr ⟨read,hh,by simp [hr],hs⟩)
      simpa only [if_neg hno] using settleRefused_fails run _

/-! Every guarded Run -/

/-- A Run holds a guarded change, and nobody has heard how its guard ended. -/
structure Holding (w : World) (r : RunId) (g : GuardColumns) (ch : ChangeColumns) : Prop where
  listed : r ∈ w.runs
  guarded : (w.files r).rows.state = .guarded
  guard : (w.files r).rows.guard = some g
  unsettled : g.settled = none
  change : (w.files r).rows.change = some ch

/-- Whatever a reading of the target shows afterwards, the guard's end is on record, as its holder tells it, and the Run
has the ending that follows. -/
def Settles (print : Json → String) (binding : TextBinding) (guardId : String) (i : RequestId) (w : World) (r : RunId)
    (g : GuardColumns) (ch : ChangeColumns) (answer : Except AgentError Fields) : Prop :=
  ∃ field before desired, ch.planned = .field field before desired ∧
    (settleAnswered print binding guardId (w.record r) ch g answer).Always (World.unattended i) (fun _ _ _ => True)
      (fun e v => (∃ ended, e = .ok ended) ∧ ∃ report, Says answer report ∧
        Service.LapseEnded report before (w.locks.forRun r) ((v.files r).rows,v.locks.forRun r)) w

theorem lapseEnded_journal {report : GuardReport} {before : Int} {l : Option LockKey} {x : Rows} {held : Option LockKey}
    {journal : List Call} (h : Service.LapseEnded report before l (x,held)) :
    Service.LapseEnded report before l ({ x with journal },held) := h

theorem settles_of_readable {w : World} {i : RequestId} {r : RunId} {g : GuardColumns} {ch : ChangeColumns}
    (hfit : (w.files r).rows.Collectable) (harmed : g.armed) (hw : Holding w r g ch)
    (hphase : said answer "phase" ≠ .str "armed") (hread : Readable print binding answer) :
    Settles print binding guardId i w r g ch answer := by
  have hreported : ∃ h, guardReport print guardId answer = some h ∧ h.told.report.isSome ∧ h.storable binding :=
    readable_iff.mp hread
  obtain ⟨h,hh,hsome,hstorable⟩ := hreported
  obtain ⟨report,hr⟩ := Option.isSome_iff_exists.mp hsome
  have hwords := says_of_report hh hr
  obtain ⟨hlapsing,hk⟩ := hfit.lapsing hw.guarded g hw.guard hw.unsettled
  obtain ⟨ch',hch',_,_,hfield⟩ := hlapsing.change
  obtain rfl := Option.some.inj (hw.change.symm.trans hch')
  obtain ⟨field,before,desired,hplanned⟩ := PlannedChange.field_of_isField hfield
  have hreport : report ≠ .armed := fun he => hphase (hwords.armed.mp he)
  have hsettled : settleAnswered print binding guardId (w.record r) ch g answer = Service.settleLapsed (w.record r) ch g report := by
    simp only [settleAnswered,hh,settleReported,hr,hstorable,if_true]
  have hshows := World.Shows.self hw.listed
  have hsafe : (alone i r fun _ _ => True).Safe (Service.settleLapsed (w.record r) ch g report)
      (Service.EndsLapsed report before (w.locks.forRun r)) ((w.files r).rows,w.locks.forRun r) :=
    Service.settled_settleLapsed rfl hlapsing hk hfit.opened hw.guard hw.unsettled hreport (fun _ => harmed) hplanned
  refine ⟨field,before,desired,hplanned,?_⟩
  rw [hsettled]
  refine (Program.Always.of_safe (fun op o hs hf _ => hs.unattended o hf fun _ => trivial) hshows hsafe).mono ?_
  rintro e v ⟨⟨x,held⟩,hv,hok,hended⟩
  obtain ⟨journal,hrows,_⟩ := hv.rows
  refine ⟨hok,report,hwords,?_⟩
  rw [hrows,hv.lock]
  exact lapseEnded_journal hended

theorem not_settles {w : World} {i : RequestId} {r : RunId} {g : GuardColumns} {ch : ChangeColumns}
    (hread : ¬Readable print binding answer) : ¬Settles print binding guardId i w r g ch answer := by
  rintro ⟨_,_,_,_,h⟩
  exact (settleAnswered_fails hread _ _ _).not_always (fun _ => ([],{})) (fun _ _ hv => hv.1) h

/-- A driver that encodes every text, and text that prints as itself. -/
def everyText : TextBinding := ⟨fun _ => true,fun _ _ => rfl⟩

def bare : Json → String
  | .str text => text
  | _ => "value"

/-- Run 0 waits on its connection, and its holder answers. -/
theorem exists_holding : ∃ c : engine.Config, Reach .free c ∧ ∃ g ch, Holding c.world 0 g ch := by
  obtain ⟨c,hc,hp⟩ := exists_of_play guardedWorld_initial guardHeld (fun c =>
    decide (0 ∈ World.runs c.world) && decide ((World.files c.world 0).rows.state = .guarded) &&
      (World.files c.world 0).rows.guard.any (·.settled.isNone) && (World.files c.world 0).rows.change.isSome) (by decide +kernel)
  simp only [Bool.and_eq_true,decide_eq_true_eq] at hp
  obtain ⟨⟨⟨hr,hstate⟩,hguard⟩,hchange⟩ := hp
  obtain ⟨g,hg,hn⟩ := (Option.any_eq_true ..).mp hguard
  obtain ⟨ch,hch⟩ := Option.isSome_iff_exists.mp hchange
  exact ⟨c,hc,g,ch,⟨hr,hstate,hg,Option.isNone_iff_eq_none.mp hn,hch⟩⟩

/-- A holder that wrote the previous value back says so. -/
def wroteBack : Except AgentError Fields :=
  .ok [("guard",.obj [("phase",.str "fired"),("fired_at",.str "2026-03-01T10:00:00Z"),
    ("mutation",.obj [("outcome",.str "written"),("reason",.str "acknowledged")])])]

/-- The holder answers with a list where its guard is expected. -/
def listAnswered : Except AgentError Fields := .ok [("guard",.arr [.num 1])]

end LapsedGuards
end LocalPlane
