import LocalPlane.CurrentSchema
import LocalPlane.SqlOrigins
import LocalPlane.SqlUpgradeSteps

/-!
# From one version of the schema to the current one

The migrations from the seventh version on, what each takes to hold of the rows before it, and
what it gives the columns that were not there. They are followed once, for every store.
-/

set_option linter.dupNamespace false

namespace LocalPlane
namespace Migrations

open Sql
open Truth (accepts)

/-- A typed confirmation has to say what was typed from the tenth version on. -/
def untyped : Condition Column := .differs .method "typed"

/-- A preview of a service that was digested without the impact on LocalPlane itself. -/
def beforeSelfImpact : Condition Column :=
  .or (.lessThan .digestVersion 6) (.notLike (.column .operation) "systemd.service.")

/-- The migrations from the eighth to the sixteenth version. -/
def stages : List (Stage Table Column Name) :=
  [⟨[(.runConfirmations,untyped)],Docker.migration⟩,⟨[(.runConfirmations,untyped)],Recovery.migration⟩,
    ⟨[(.runConfirmations,untyped)],ConnectionGuard.migration⟩,⟨[],ObservationScope.migration⟩,
    ⟨[],SystemdLifecycle.migration⟩,⟨[(.runPreviews,beforeSelfImpact)],SelfImpact.migration⟩,
    ⟨[],SelfImpactOverride.migration⟩,⟨[],SystemdLifecycleChanges.migration⟩,⟨[],Authentication.migration⟩]

def schemaAt (version : ℕ) : Schema Table Column Name := WriteBoundary.schema.afterStages (stages.take (version - 7))
def remaining (version : ℕ) : List (Stage Table Column Name) := stages.drop (version - 7)

/-- What a migration gives the columns a table did not have. -/
def restatedBy : ℕ → Table → List (Column × Supply Table Column)
  | 8,.runPreviews => [(.changeKind,.value (.text "field")),(.action,.value .null),(.observedState,.value .null),
      (.expectedState,.value .null)]
  | 8,.changes => [(.changeKind,.value (.text "field")),(.action,.value .null),(.observedState,.value .null),
      (.expectedState,.value .null),(.verificationObservedState,.value .null),
      (.executionCorrelation,.found .runCheckpoints .checkpointId .checkpointId .executionCorrelation (.text "\x7b\x7d"))]
  | 9,.runConfirmations => [(.purpose,.value (.text "apply"))]
  | 10,.runPreviews => [(.guardAvailability,.value (.text "unavailable")),
      (.guardReason,.value (.text "guard_not_required")),(.guardWindowS,.value (.integer 0)),
      (.guardPrerequisites,.value (.text "[]")),(.guardUnmet,.value (.text "[]")),(.guardGuarantee,.value (.text "")),
      (.guardArmed,.value (.integer 0))]
  | 10,.runConfirmations => [(.typedStatement,.value .null)]
  | 11,.observationSweeps => [(.scope,.value (.text "inventory"))]
  | 12,.runPreviews => [(.protectionAssessments,.value (.text "[]")),(.authorizationAssessment,.value .null),
      (.lifecycleContext,.value .null)]
  | 13,.runPreviews => [(.selfImpact,.value .null)]
  | _,_ => []

def restatements (version : ℕ) (t : Table) : List (Column × Supply Table Column) :=
  (List.range' (version + 1) (16 - version)).flatMap fun m => restatedBy m t

/-- Where each column of the current schema comes from. -/
def originsFrom (version : ℕ) : Origins Table Column :=
  ((remaining version).map (·.migration)).foldl Origins.migrate (Origins.start (schemaAt version))

def versions : List ℕ := List.range' 7 9

/-- Whether every table keeps its columns and gets the others as stated, and has no other ones. -/
def restatesAll (version : ℕ) : Bool := (schemaAt version).tables.all fun e =>
  (originsFrom version).keeps e.1 e.2 (restatements version e.1) && (currentSchema.table? e.1).any fun d =>
    d.columns.all fun c => e.2.columns.any (·.name = c.name) || (restatements version e.1).any (·.1 = c.name)

theorem schemaAt_later {version later : ℕ} (hfrom : 7 ≤ version) (hto : version ≤ later) :
    (schemaAt version).afterStages ((remaining version).take (later - version)) = schemaAt later := by
  have hlater : later - 7 = version - 7 + (later - version) := by omega
  rw [schemaAt,schemaAt,remaining,Schema.afterStages,Schema.afterStages,Schema.afterStages,← List.foldl_append,hlater,
    List.take_add]

theorem remaining_later {version later : ℕ} (hfrom : 7 ≤ version) (hto : version ≤ later) :
    (remaining version).take (later - version) ++ remaining later = remaining version := by
  have hlater : later - 7 = version - 7 + (later - version) := by omega
  rw [remaining,remaining,hlater,← List.drop_drop,List.take_append_drop]

theorem safe_until (version later : ℕ) (hfrom : 7 ≤ version) (hto : version ≤ later)
    (hstages : safe (schemaAt version) ((remaining version).take (later - version) ++
      (remaining later).head?.toList.map Stage.awaited) = true)
    (hlater : safe (schemaAt later) (remaining later) = true) : safe (schemaAt version) (remaining version) = true := by
  rw [← remaining_later hfrom hto]
  exact safe_append_of hstages (by rwa [schemaAt_later hfrom hto])

-- three stages at a time, as the kernel holds on to all that one evaluation computes
theorem stages_safe : safe WriteBoundary.schema stages = true := by
  have hlate : safe (schemaAt 13) (remaining 13) = true := by decide +kernel
  have hmiddle : safe (schemaAt 10) (remaining 10) = true :=
    safe_until 10 13 (by decide) (by decide) (by decide +kernel) hlate
  exact safe_until 7 10 (by decide) (by decide) (by decide +kernel) hmiddle

/-- What the stages end in, and where the previews stand at the twelfth version. -/
theorem stages_end : ((WriteBoundary.schema.afterStages stages).tables = currentSchema.tables ∧
    (WriteBoundary.schema.afterStages stages).indexes = currentSchema.indexes ∧
    (WriteBoundary.schema.afterStages stages).triggers = currentSchema.triggers) ∧
    (schemaAt 12).table? .runPreviews = some SystemdLifecycle.runPreviews := by
  decide +kernel

theorem afterStages_eq : WriteBoundary.schema.afterStages stages = currentSchema :=
  Schema.eq_of_parts stages_end.1.1 stages_end.1.2.1 stages_end.1.2.2

theorem versions_restate : versions.all restatesAll = true := by
  have hearly : [7,8,9].all restatesAll = true := by decide +kernel
  have hmiddle : [10,11,12].all restatesAll = true := by decide +kernel
  have hlate : [13,14,15].all restatesAll = true := by decide +kernel
  have hversions : versions = [7,8,9] ++ [10,11,12] ++ [13,14,15] := by decide
  rw [hversions,List.all_append,List.all_append,hearly,hmiddle,hlate]
  rfl

section Versions

variable {read : String → String → Cell} {version : ℕ} {content : Content Table Column}

theorem afterStages_remaining : (schemaAt version).afterStages (remaining version) = currentSchema := by
  rw [← afterStages_eq,schemaAt,remaining,Schema.afterStages,Schema.afterStages,Schema.afterStages,← List.foldl_append,
    List.take_append_drop]

theorem remaining_safe : safe (schemaAt version) (remaining version) = true := by
  apply safe_drop
  rw [remaining,List.take_append_drop]
  exact stages_safe

variable (read version content) in
/-- What no build wrote, though the CHECKs of the time let it in: a typed confirmation before the
tenth version, and at the twelfth a preview of a service at a digest version of the thirteenth. -/
structure Recorded : Prop where
  confirmations : version < 10 → ∀ row ∈ content .runConfirmations,row .method ≠ .text "typed"
  previews : version = 12 → ∀ row ∈ content .runPreviews,(row .operation).startsWith "systemd.service." = some true →
    ∀ n,row .digestVersion = .integer n → n < 6

theorem untyped_assumed (h : Recorded version content) (hv : version < 10) :
    ∀ e ∈ [(Table.runConfirmations,untyped)],∀ row ∈ content e.1,accepts (e.2.eval read row) = true := by
  intro e he row hrow
  obtain rfl := List.mem_singleton.mp he
  simp only [untyped,Condition.accepts_differs,decide_eq_true_eq]
  exact h.confirmations hv row hrow

theorem beforeSelfImpact_assumed (hvalid : (schemaAt 12).Valid read content) (h : Recorded 12 content) :
    ∀ e ∈ [(Table.runPreviews,beforeSelfImpact)],∀ row ∈ content e.1,accepts (e.2.eval read row) = true := by
  intro e he row hrow
  obtain rfl := List.mem_singleton.mp he
  have hdigest := TableDef.typed_column read (hvalid.passes _ _ stages_end.2 row hrow) (c := .required .integer .digestVersion)
    (by decide)
  simp only [beforeSelfImpact,Condition.lessThan,Condition.notLike,Condition.eval,Term.eval,Truth.accepts_or,
    Truth.accepts_not,Bool.or_eq_true,bne_iff_ne,ne_eq]
  by_cases hservice : (row .operation).startsWith "systemd.service." = some true
  · left
    cases hcell : row .digestVersion with
    | null => simp [accepts]
    | integer n => simp [Cell.lt,h.previews rfl row hrow hservice n hcell]
    | text s => simp [ColumnDef.admits,ColumnDef.required,hcell] at hdigest
  · exact .inr hservice

theorem remaining_assumed (hfrom : 7 ≤ version) (hto : version ≤ 15) (hvalid : (schemaAt version).Valid read content)
    (h : Recorded version content) : ∀ stage ∈ (remaining version).head?,stage.Assumed read content := by
  intro stage hstage
  rw [remaining,List.head?_drop,Option.mem_def] at hstage
  obtain rfl | rfl | rfl | rfl | rfl | rfl | rfl | rfl | rfl : version = 7 ∨ version = 8 ∨ version = 9 ∨ version = 10 ∨
      version = 11 ∨ version = 12 ∨ version = 13 ∨ version = 14 ∨ version = 15 := by omega
  case inl | inr.inl | inr.inr.inl =>
    obtain rfl := Option.some.inj hstage
    exact untyped_assumed h (by decide)
  case inr.inr.inr.inr.inr.inl =>
    obtain rfl := Option.some.inj hstage
    exact beforeSelfImpact_assumed hvalid h
  all_goals
    obtain rfl := Option.some.inj hstage
    exact List.forall_mem_nil _

/-- The rows of a table at some version, and what they are in the current one. -/
def Survives (version : ℕ) (content : Content Table Column) (d : TableDef Table Column) (t : Table)
    (row row' : Row Column) : Prop :=
  (∀ c ∈ d.columns,row' c.name = row c.name) ∧ Became content (restatements version t) row row'

/-- Every column of the current table is kept or restated. -/
def Covered (version : ℕ) (t : Table) (d : TableDef Table Column) : Prop := ∃ d',currentSchema.table? t = some d' ∧
  ∀ c ∈ d'.columns,(∃ c' ∈ d.columns,c'.name = c.name) ∨ ∃ p ∈ restatements version t,p.1 = c.name

theorem mem_versions (hfrom : 7 ≤ version) (hto : version ≤ 15) : version ∈ versions :=
  List.mem_range'_1.mpr ⟨hfrom,by omega⟩

theorem restates (hfrom : 7 ≤ version) (hto : version ≤ 15) {t : Table} {d : TableDef Table Column}
    (hd : (schemaAt version).table? t = some d) :
    (originsFrom version).keeps t d (restatements version t) = true ∧ Covered version t d := by
  have hall := List.all_eq_true.mp versions_restate version (mem_versions hfrom hto)
  have htable := List.all_eq_true.mp hall (t,d) (Schema.mem_tables hd)
  simp only [Bool.and_eq_true,Option.any_eq_true,List.all_eq_true,Bool.or_eq_true,List.any_eq_true,
    decide_eq_true_eq] at htable
  exact htable

/-- Every table of the old schema survives, row by row. -/
theorem upgrade_survives (hfrom : 7 ≤ version) (hto : version ≤ 15) {after : Database Table Column Name}
    (hupgrade : Database.upgrade read ⟨schemaAt version,content⟩ ((remaining version).map (·.migration)) = some after)
    {t : Table} {d : TableDef Table Column} (hd : (schemaAt version).table? t = some d) :
    List.Forall₂ (Survives version content d t) (content t) (after.content t) :=
  keeps_sound (upgrade_traced (start_traced (schemaAt version) content) hupgrade) (restates hfrom hto hd).1

theorem upgrade_succeeds (hfrom : 7 ≤ version) (hto : version ≤ 15) (hvalid : (schemaAt version).Valid read content)
    (h : Recorded version content) : ∃ after,
      Database.upgrade read ⟨schemaAt version,content⟩ ((remaining version).map (·.migration)) =
        some ⟨currentSchema,after⟩ ∧ currentSchema.Valid read after := by
  have hsound := upgrade_sound remaining_safe hvalid (remaining_assumed hfrom hto hvalid h)
  rwa [afterStages_remaining] at hsound

end Versions

end Migrations
end LocalPlane
