import LocalPlane.CurrentSchema
import LocalPlane.SqlWrites

/-!
# What the constraints let a row say

A result or a phase is judged by a CHECK on the outcome beside it. Where that outcome is NULL the
condition is unknown, and the row is let in all the same.
-/

set_option linter.dupNamespace false

namespace LocalPlane
namespace Migrations

open Sql Sql.Schema
open Truth (accepts)

/-- What the result of a change is meant to rest on. -/
structure ChangeMeans (row : Row Column) : Prop where
  failed : row .result = .text "failed" → row .mutationOutcome = .text "not_written" ∧ row .hostEffect = .text "none"
  succeeded : row .result = .text "succeeded" → row .mutationOutcome = .text "written" ∧
    row .verificationOutcome = .text "verified" ∧ row .verificationObservationId ≠ .null
  rolledBack : row .result = .text "rolled_back" → row .rollbackVerificationOutcome = .text "verified" ∧
    row .rollbackVerificationObservationId ≠ .null

/-- A guard tells of a reversal just where it fired. -/
structure GuardMeans (row : Row Column) : Prop where
  fired : row .firedAt ≠ .null ↔ row .settledPhase = .text "fired"
  reversed : row .reversalOutcome ≠ .null ↔ row .settledPhase = .text "fired"

def RowMeans : Table → Row Column → Prop
  | .changes,row => ChangeMeans row
  | .runGuards,row => GuardMeans row
  | _,_ => True

/-- A change that ended one way or the other says what was written. -/
def ChangeSettled (row : Row Column) : Prop :=
  row .result = .text "failed" ∨ row .result = .text "succeeded" → row .mutationOutcome ≠ .null

/-- A guard that has no phase tells of no reversal. -/
def GuardQuiet (row : Row Column) : Prop :=
  row .settledPhase = .null → row .firedAt = .null ∧ row .reversalOutcome = .null

def RowSettled : Table → Row Column → Prop
  | .changes,row => ChangeSettled row
  | .runGuards,row => GuardQuiet row
  | _,_ => True

section Rows

variable {read : String → String → Cell} {row : Row Column}

section Changes

variable (h : SystemdLifecycleChanges.changes.passes read row = true)
include h

theorem changes_hostEffect : row .hostEffect ≠ .null :=
  ColumnDef.admits_null (TableDef.typed_column read h (c := .orElse .text .hostEffect (.text "none")) (by decide)) rfl

theorem changes_verificationOutcome : row .verificationOutcome ≠ .null :=
  ColumnDef.admits_null
    (TableDef.typed_column read h (c := .orElse .text .verificationOutcome (.text "not_attempted")) (by decide)) rfl

theorem changes_rollbackVerificationOutcome : row .rollbackVerificationOutcome ≠ .null :=
  ColumnDef.admits_null
    (TableDef.typed_column read h (c := .orElse .text .rollbackVerificationOutcome (.text "not_attempted")) (by decide)) rfl

theorem changes_failed (hr : row .result = .text "failed") :
    (row .mutationOutcome = .null ∨ row .mutationOutcome = .text "not_written") ∧ row .hostEffect = .text "none" := by
  have hcheck := TableDef.accepts_check read h (c := .or (.differs .result "failed")
    (.and (.equals .mutationOutcome "not_written") (.equals .hostEffect "none"))) (by decide)
  have heffect := changes_hostEffect h
  simpa [Condition.eval,hr,heffect] using hcheck

theorem changes_succeeded (hr : row .result = .text "succeeded") :
    (row .mutationOutcome = .null ∨ row .mutationOutcome = .text "written") ∧
      row .verificationOutcome = .text "verified" := by
  have hcheck := TableDef.accepts_check read h (c := .or (.differs .result "succeeded")
    (.and (.equals .mutationOutcome "written") (.equals .verificationOutcome "verified"))) (by decide)
  have houtcome := changes_verificationOutcome h
  simpa [Condition.eval,hr,houtcome] using hcheck

theorem changes_verified (hv : row .verificationOutcome = .text "verified") : row .verificationObservationId ≠ .null := by
  have hcheck := TableDef.accepts_check read h (c := .or (.differs .verificationOutcome "verified")
    (.present .verificationObservationId)) (by decide)
  simpa [Condition.eval,hv] using hcheck

theorem changes_rolledBack (hr : row .result = .text "rolled_back") :
    row .rollbackVerificationOutcome = .text "verified" ∧ row .rollbackVerificationObservationId ≠ .null := by
  have hcheck := TableDef.accepts_check read h (c := .or (.differs .result "rolled_back")
    (.equals .rollbackVerificationOutcome "verified")) (by decide)
  have houtcome := changes_rollbackVerificationOutcome h
  have hv : row .rollbackVerificationOutcome = .text "verified" := by simpa [Condition.eval,hr,houtcome] using hcheck
  have hname := TableDef.accepts_check read h (c := .or (.differs .rollbackVerificationOutcome "verified")
    (.present .rollbackVerificationObservationId)) (by decide)
  exact ⟨hv,by simpa [Condition.eval,hv] using hname⟩

theorem changeMeans_iff : ChangeMeans row ↔ ChangeSettled row := by
  constructor
  · rintro hmeans (hr | hr)
    · simp [(hmeans.failed hr).1]
    · simp [(hmeans.succeeded hr).1]
  · intro hsettled
    refine ⟨?_,?_,changes_rolledBack h⟩
    · intro hr
      have hfailed := changes_failed h hr
      exact ⟨hfailed.1.resolve_left (hsettled (.inl hr)),hfailed.2⟩
    · intro hr
      have hsucceeded := changes_succeeded h hr
      exact ⟨hsucceeded.1.resolve_left (hsettled (.inr hr)),hsucceeded.2,changes_verified h hsucceeded.2⟩

end Changes

section Guards

variable (h : ConnectionGuard.runGuards.passes read row = true)
include h

theorem guards_fired (hp : row .settledPhase ≠ .null) : row .firedAt ≠ .null ↔ row .settledPhase = .text "fired" := by
  have hcheck := TableDef.accepts_check read h (c := .same (.equals .settledPhase "fired") (.present .firedAt)) (by decide)
  rw [Condition.accepts_same_equals_present] at hcheck
  simp only [hp,decide_false,Bool.false_or,beq_iff_eq,decide_eq_decide] at hcheck
  exact hcheck.symm

theorem guards_reversed (hp : row .settledPhase ≠ .null) :
    row .reversalOutcome ≠ .null ↔ row .settledPhase = .text "fired" := by
  have hcheck := TableDef.accepts_check read h (c := .same (.equals .settledPhase "fired") (.present .reversalOutcome))
    (by decide)
  rw [Condition.accepts_same_equals_present] at hcheck
  simp only [hp,decide_false,Bool.false_or,beq_iff_eq,decide_eq_decide] at hcheck
  exact hcheck.symm

theorem guardMeans_iff : GuardMeans row ↔ GuardQuiet row := by
  by_cases hp : row .settledPhase = .null
  · have hunfired : row .settledPhase ≠ .text "fired" := by simp [hp]
    constructor
    · intro hmeans _
      exact ⟨not_not.mp (mt hmeans.fired.mp hunfired),not_not.mp (mt hmeans.reversed.mp hunfired)⟩
    · intro hquiet
      exact ⟨by simp [hquiet hp,hunfired],by simp [hquiet hp,hunfired]⟩
  · constructor
    · exact fun _ hnull => absurd hnull hp
    · exact fun _ => ⟨guards_fired h hp,guards_reversed h hp⟩

end Guards

theorem rowMeans_iff {t : Table} (h : currentSchema.Passes read t row) : RowMeans t row ↔ RowSettled t row := by
  obtain ⟨d,hd,hpasses⟩ := h
  cases t with
  | changes =>
    obtain rfl : SystemdLifecycleChanges.changes = d := Option.some.inj hd
    exact changeMeans_iff hpasses
  | runGuards =>
    obtain rfl : ConnectionGuard.runGuards = d := Option.some.inj hd
    exact guardMeans_iff hpasses
  | _ => exact Iff.rfl

end Rows

section Histories

variable {read : String → String → Cell}

theorem passes_throughout (content : Content Table Column) (attempts : List (Submission Table Column))
    (h : AllRows (currentSchema.Passes read) content) :
    currentSchema.Throughout read (AllRows (currentSchema.Passes read)) content attempts :=
  throughout_of_step passes_after content attempts h

/-- The rows of a history mean what they say just where none is left without its outcome or phase. -/
theorem rows_mean_iff (content : Content Table Column) (attempts : List (Submission Table Column))
    (h : AllRows (currentSchema.Passes read) content) :
    currentSchema.Throughout read (AllRows RowMeans) content attempts ↔
      AllRows RowSettled content ∧ currentSchema.EveryRow read RowSettled content attempts := by
  rw [← throughout_allRows_iff]
  refine throughout_congr ?_ content attempts (passes_throughout content attempts h)
  intro store hpasses
  constructor
  · exact fun hmeans t row hrow => (rowMeans_iff (hpasses t row hrow)).mp (hmeans t row hrow)
  · exact fun hsettled t row hrow => (rowMeans_iff (hpasses t row hrow)).mpr (hsettled t row hrow)

end Histories

section Unsettled

/-- The values given, and something in every other column that needs a value. -/
def sample (d : TableDef Table Column) (given : List (Column × Cell)) : List (Column × Cell) :=
  given ++ (d.columns.filter fun c => c.notNull && c.default = .null && !given.any (·.1 = c.name)).map fun c =>
    (c.name,if c.kind = .text then .text "x" else .integer 1)

def insertion (s : Schema Table Column Name) (t : Table) (given : List (Column × Cell)) : Submission Table Column :=
  ⟨.insert t (((s.table? t).map (sample · given)).getD []) false,true⟩

def reconcile : Cell := .text "network.interface.reconcile_mtu"

/-- What a guarded change of a link's MTU rests on. -/
def groundwork : List (Submission Table Column) := [
  insertion currentSchema .hosts [(.hostId,.text "h"),(.identityConfidence,.text "high")],
  insertion currentSchema .objects [(.objectId,.text "o"),(.hostId,.text "h"),(.identityBasis,.text "kernel_name"),
    (.identityConfidence,.text "low"),(.managementState,.text "observed")],
  insertion currentSchema .observationSweeps [(.sweepId,.text "s"),(.hostId,.text "h"),(.status,.text "ok")],
  insertion currentSchema .observations [(.observationId,.text "b"),(.sweepId,.text "s"),(.hostId,.text "h"),
    (.objectId,.text "o"),(.fidelity,.text "complete"),(.healthState,.text "healthy")],
  insertion currentSchema .intents [(.intentId,.text "i"),(.objectId,.text "o"),(.hostId,.text "h"),
    (.origin,.text "adopt"),(.observationId,.text "b"),(.sweepId,.text "s")],
  insertion currentSchema .managementPathObservations [(.observationId,.text "m"),(.hostId,.text "h"),
    (.transportPeerFamily,.text "inet"),(.localEndpointFamily,.text "inet"),(.routeStatus,.text "resolved")],
  insertion currentSchema .runPreviews [(.previewId,.text "p"),(.operation,reconcile),(.changeKind,.text "field"),
    (.field,.text "mtu"),(.valueType,.text "integer"),(.currentValue,.integer 1500),(.desiredValue,.integer 1400),
    (.intentId,.text "i"),(.intentVersion,.integer 1),(.intentCapability,.text "x"),(.intentProvider,.text "x"),
    (.observationId,.text "b"),(.sweepId,.text "s"),(.protectionStatus,.text "protected"),
    (.protectionManagementPath,.text "on_management_path"),(.protectionEvidenceId,.text "m"),
    (.protectionEvidenceObservedAt,.text "x"),(.riskTier,.text "high"),(.confirmationMethod,.text "typed"),
    (.confirmationSource,.text "policy"),(.confirmationTokenIssued,.integer 0),
    (.executionAvailability,.text "available"),(.executionEligibility,.text "guarded"),
    (.guardAvailability,.text "available"),(.guardWindowS,.integer 30),(.recoveryMode,.text "auto"),
    (.recoveryArmed,.integer 0),(.verificationExecuted,.integer 0)],
  insertion currentSchema .runs [(.runId,.text "r"),(.hostId,.text "h"),(.objectId,.text "o"),
    (.operation,reconcile),(.state,.text "arming"),(.previewId,.text "p")],
  insertion currentSchema .runConfirmations [(.confirmationId,.text "c"),(.runId,.text "r"),(.purpose,.text "apply"),
    (.previewId,.text "p"),(.requiredMethod,.text "typed"),(.method,.text "typed"),(.typedStatement,.text "x"),
    (.source,.text "authenticated_request"),(.consumedAt,.text "x")],
  insertion currentSchema .runCheckpoints [(.checkpointId,.text "k"),(.runId,.text "r"),(.previewId,.text "p"),
    (.hostId,.text "h"),(.objectId,.text "o"),(.intentId,.text "i"),(.valueType,.text "integer"),
    (.beforeValue,.integer 1500),(.desiredValue,.integer 1400),(.observationId,.text "b"),
    (.protectionManagementPath,.text "on_management_path"),(.protectionEvidenceId,.text "m")]]

/-- A guard that fired in no phase, and a change that failed with no outcome. -/
def unsettled : List (Submission Table Column) := groundwork ++ [
  insertion currentSchema .runGuards [(.guardId,.text "g"),(.runId,.text "r"),(.previewId,.text "p"),
    (.checkpointId,.text "k"),(.hostId,.text "h"),(.objectId,.text "o"),
    (.protectionManagementPath,.text "on_management_path"),(.protectionEvidenceId,.text "m"),
    (.confirmationId,.text "c"),(.armedAt,.text "x"),(.expiresAt,.text "x"),(.holderId,.text "x"),
    (.firedAt,.text "x"),(.reversalOutcome,.text "written")],
  insertion currentSchema .changes [(.changeId,.text "d"),(.runId,.text "r"),(.previewId,.text "p"),
    (.checkpointId,.text "k"),(.hostId,.text "h"),(.objectId,.text "o"),(.operation,reconcile),
    (.changeKind,.text "field"),(.field,.text "mtu"),(.valueType,.text "integer"),(.beforeValue,.integer 1500),
    (.desiredValue,.integer 1400),(.result,.text "failed")]]

def noJson : String → String → Cell := fun _ _ => .null

def noRows : Content Table Column := fun _ => []

theorem unsettled_stored :
    (∃ row ∈ currentSchema.run noJson noRows unsettled .changes,row .result = .text "failed" ∧ row .mutationOutcome = .null) ∧
      ∃ row ∈ currentSchema.run noJson noRows unsettled .runGuards,row .settledPhase = .null ∧ row .firedAt ≠ .null := by
  decide +kernel

/-- Both tables let a row in that does not mean what it says. -/
theorem unsettled_rows_stored :
    ¬ currentSchema.Throughout noJson (AllRows fun t row => t = .changes → RowMeans t row) noRows unsettled ∧
      ¬ currentSchema.Throughout noJson (AllRows fun t row => t = .runGuards → RowMeans t row) noRows unsettled := by
  obtain ⟨⟨change,hchange,hresult,houtcome⟩,⟨guard,hguard,hphase,hfired⟩⟩ := unsettled_stored
  constructor
  · intro h
    have hmeans : ChangeMeans change := throughout_last h .changes change hchange rfl
    have hwritten := (hmeans.failed hresult).1
    simp [houtcome] at hwritten
  · intro h
    have hmeans : GuardMeans guard := throughout_last h .runGuards guard hguard rfl
    have hsettled := hmeans.fired.mp hfired
    simp [hphase] at hsettled

theorem rows_mean_iff_unsettled : currentSchema.Throughout noJson (AllRows RowMeans) noRows unsettled ↔
    AllRows RowSettled noRows ∧ currentSchema.EveryRow noJson RowSettled noRows unsettled :=
  rows_mean_iff noRows unsettled (by intro t row hrow; simp [noRows] at hrow)

end Unsettled

end Migrations
end LocalPlane
