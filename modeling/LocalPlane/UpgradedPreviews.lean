import LocalPlane.PreviewSections
import LocalPlane.Upgrades

/-!
# Previews that went through an upgrade

A preview is read from the columns of its row, and a plan from the preview. An upgraded row reads
as the old one does with the missing columns restated, and at its own digest version as the old
one does whatever the missing columns are taken to hold.
-/

set_option linter.dupNamespace false

namespace LocalPlane
namespace Migrations

open Sql Planning
open LineProtocol (Json)

/-! Reading a row -/

def textOf : Cell → Option String
  | .text s => some s
  | _ => none

def textOrNull : Cell → Option (Option String)
  | .null => some none
  | .text s => some (some s)
  | .integer _ => none

def integerOf : Cell → Option Int
  | .integer n => some n
  | _ => none

def integerOrNull : Cell → Option (Option Int)
  | .null => some none
  | .integer n => some (some n)
  | .text _ => none

section Reading

-- what `json.loads` makes of a text
variable (parse : String → Option Json)

def jsonOf (fallback : Json) : Cell → Option Json
  | .null => some fallback
  | .text s => parse s
  | .integer _ => none

def sectionOf (cell : Cell) : Option (Option Json) :=
  (jsonOf parse .null cell).map fun j => if j = .null then none else some j

/-- The columns every version has; the others are read afterwards. -/
def readRetained (row : Row Column) : Option PreviewRow := do
  return {
    previewDigest := ← textOf (row .previewDigest)
    digestVersion := (← integerOf (row .digestVersion)).toNat
    operation := ← textOf (row .operation)
    changeKind := changeKindField
    field := ← textOrNull (row .field)
    valueType := ← textOrNull (row .valueType)
    currentValue := ← integerOrNull (row .currentValue)
    desiredValue := ← integerOrNull (row .desiredValue)
    action := none
    observedState := none
    expectedState := none
    intentId := ← textOrNull (row .intentId)
    intentVersion := ← integerOrNull (row .intentVersion)
    intentCapability := ← textOrNull (row .intentCapability)
    intentProvider := ← textOrNull (row .intentProvider)
    observationId := ← textOf (row .observationId)
    sweepId := ← textOf (row .sweepId)
    observedAt := ← textOf (row .observedAt)
    driftFindingId := ← textOrNull (row .driftFindingId)
    ownershipState := ← textOf (row .ownershipState)
    ownershipReason := ← textOf (row .ownershipReason)
    ownershipClaims := ← jsonOf parse (.arr []) (row .ownershipClaims)
    ownershipGaps := ← jsonOf parse (.arr []) (row .ownershipGaps)
    providerReadings := ← jsonOf parse (.obj []) (row .providerReadings)
    protectionStatus := ← textOf (row .protectionStatus)
    protectionReasons := ← jsonOf parse (.arr []) (row .protectionReasons)
    protectionUnresolved := ← jsonOf parse (.arr []) (row .protectionUnresolved)
    protectionManagementPath := ← textOf (row .protectionManagementPath)
    protectionReason := ← textOf (row .protectionReason)
    protectionMissingEvidence := ← jsonOf parse (.arr []) (row .protectionMissingEvidence)
    protectionEvidenceId := ← textOrNull (row .protectionEvidenceId)
    protectionEvidenceObservedAt := ← textOrNull (row .protectionEvidenceObservedAt)
    protectionAssessments := .arr []
    authorizationAssessment := none
    lifecycleContext := none
    selfImpact := none
    riskTier := ← textOf (row .riskTier)
    riskFactors := ← jsonOf parse (.arr []) (row .riskFactors)
    confirmationRequired := ← integerOf (row .confirmationRequired)
    confirmationMethod := ← textOf (row .confirmationMethod)
    confirmationSource := ← textOf (row .confirmationSource)
    confirmationReasons := ← jsonOf parse (.arr []) (row .confirmationReasons)
    confirmationPolicy := ← textOf (row .confirmationPolicy)
    confirmationTokenIssued := ← integerOf (row .confirmationTokenIssued)
    executionAvailability := ← textOf (row .executionAvailability)
    executionEligibility := ← textOf (row .executionEligibility)
    executionBlockers := ← jsonOf parse (.arr []) (row .executionBlockers)
    executionProvider := ← textOrNull (row .executionProvider)
    requiredCapability := ← textOf (row .requiredCapability)
    capabilityDeclared := ← integerOf (row .capabilityDeclared)
    guardAvailability := "unavailable"
    guardReason := "guard_not_required"
    guardWindowS := 0
    guardPrerequisites := .arr []
    guardUnmet := .arr []
    guardGuarantee := ""
    guardArmed := 0
    recoveryMode := ← textOf (row .recoveryMode)
    recoveryRollbackPossible := ← integerOf (row .recoveryRollbackPossible)
    recoveryArmed := ← integerOf (row .recoveryArmed)
    recoveryGuarantee := ← textOf (row .recoveryGuarantee)
    recoveryReason := ← textOf (row .recoveryReason)
    verificationCapability := ← textOf (row .verificationCapability)
    verificationProvider := ← textOf (row .verificationProvider)
    verificationCondition := ← textOf (row .verificationCondition)
    verificationExecuted := ← integerOf (row .verificationExecuted)
    publishedAt := ← textOf (row .publishedAt) }

def readChange (row : Row Column) : Option ChangeCells := do
  return ⟨← textOf (row .changeKind),← textOrNull (row .action),← textOrNull (row .observedState),
    ← textOrNull (row .expectedState)⟩

def readGuard (row : Row Column) : Option GuardCells := do
  return ⟨← textOf (row .guardAvailability),← textOf (row .guardReason),← integerOf (row .guardWindowS),
    ← jsonOf parse (.arr []) (row .guardPrerequisites),← jsonOf parse (.arr []) (row .guardUnmet),
    ← textOf (row .guardGuarantee),← integerOf (row .guardArmed)⟩

def readAssessments (row : Row Column) : Option AssessmentCells := do
  return ⟨← jsonOf parse (.arr []) (row .protectionAssessments),← sectionOf parse (row .authorizationAssessment),
    ← sectionOf parse (row .lifecycleContext)⟩

/-- A preview as its row is read. -/
def previewOf (row : Row Column) : Option PreviewRow := do
  return (← readRetained parse row).having (← readChange row) (← readGuard parse row) (← readAssessments parse row)
    (← sectionOf parse (row .selfImpact))

variable (shapes : RuntimeOwnerCorrelation → Bool) in
/-- The plan a run and its preview are read as. -/
def planOf (hostId objectId : String) (row : Row Column) : Option RunPlan := do
  planFromRecord shapes ⟨hostId,objectId,← previewOf parse row⟩

end Reading

/-! What an upgrade leaves to be read -/

def changeNames : List Column := [.changeKind,.action,.observedState,.expectedState]

def guardNames : List Column :=
  [.guardAvailability,.guardReason,.guardWindowS,.guardPrerequisites,.guardUnmet,.guardGuarantee,.guardArmed]

def assessmentNames : List Column := [.protectionAssessments,.authorizationAssessment,.lifecycleContext]

def retainedNames : List Column := WriteBoundary.runPreviews.columns.map (·.name)

def kept (columns : List Column) (row : Row Column) : Row Column := fun c => if c ∈ columns then row c else .null

theorem kept_congr {columns : List Column} {row row' : Row Column} (h : ∀ c ∈ columns,row c = row' c) :
    kept columns row = kept columns row' := by
  funext c
  by_cases hc : c ∈ columns
  · simp only [kept,if_pos hc,h c hc]
  · simp only [kept,if_neg hc]

section Kept

variable {parse : String → Option Json} {row row' : Row Column}

theorem readRetained_kept : readRetained parse (kept retainedNames row) = readRetained parse row := rfl
theorem readChange_kept : readChange (kept changeNames row) = readChange row := rfl
theorem readGuard_kept : readGuard parse (kept guardNames row) = readGuard parse row := rfl
theorem readAssessments_kept : readAssessments parse (kept assessmentNames row) = readAssessments parse row := rfl

theorem readRetained_congr (h : ∀ c ∈ retainedNames,row c = row' c) : readRetained parse row = readRetained parse row' := by
  rw [← readRetained_kept,kept_congr h,readRetained_kept]

theorem readChange_congr (h : ∀ c ∈ changeNames,row c = row' c) : readChange row = readChange row' := by
  rw [← readChange_kept,kept_congr h,readChange_kept]

theorem readGuard_congr (h : ∀ c ∈ guardNames,row c = row' c) : readGuard parse row = readGuard parse row' := by
  rw [← readGuard_kept,kept_congr h,readGuard_kept]

theorem readAssessments_congr (h : ∀ c ∈ assessmentNames,row c = row' c) :
    readAssessments parse row = readAssessments parse row' := by
  rw [← readAssessments_kept,kept_congr h,readAssessments_kept]

end Kept

/-- The columns a preview has at some version. -/
def previewNames (version : ℕ) : List Column := (((schemaAt version).table? .runPreviews).map
  fun d => d.columns.map (·.name)).getD []

/-- From which version on each group of columns is there. -/
def grouped (version : ℕ) : Bool :=
  retainedNames.all (· ∈ previewNames version) && (version < 8 || changeNames.all (· ∈ previewNames version)) &&
  (version < 10 || guardNames.all (· ∈ previewNames version)) &&
  (version < 12 || assessmentNames.all (· ∈ previewNames version)) &&
  (version < 13 || .selfImpact ∈ previewNames version)

theorem versions_grouped : versions.all grouped = true := by decide +kernel

/-- A digest version that covers no column the schema did not have yet. -/
structure DigestKnown (version n : ℕ) : Prop where
  guard : version < 10 → n < 3
  assessments : version < 12 → n < 4
  selfImpact : version < 13 → n < 6

theorem mem_restatements {version m : ℕ} {t : Table} {p : Column × Supply Table Column} (hm : version < m) (hto : m ≤ 16)
    (h : p ∈ restatedBy m t) : p ∈ restatements version t := by
  refine List.mem_flatMap.mpr ⟨m,?_,h⟩
  rw [List.mem_range'_1]
  omega

section Decoding

variable {shapes : RuntimeOwnerCorrelation → Bool} {parse : String → Option Json} {version : ℕ}
  {content : Content Table Column} {d : TableDef Table Column} {row row' told : Row Column}

theorem mem_previewNames (hd : (schemaAt version).table? .runPreviews = some d) {c : Column}
    (hc : c ∈ previewNames version) : ∃ column ∈ d.columns,column.name = c := by
  simp only [previewNames,hd,Option.map_some,Option.getD_some,List.mem_map] at hc
  exact hc

variable (hfrom : 7 ≤ version) (hto : version ≤ 15) (hd : (schemaAt version).table? .runPreviews = some d)
  (hs : Survives version content d .runPreviews row row') (htold : ∀ c ∈ d.columns,told c.name = row c.name)

include hd hs htold in
theorem survives_told {c : Column} (hc : c ∈ previewNames version) : row' c = told c := by
  obtain ⟨column,hcolumn,rfl⟩ := mem_previewNames hd hc
  rw [hs.1 column hcolumn,htold column hcolumn]

include hs in
theorem survives_restated {m : ℕ} (hm : version < m) (hto : m ≤ 16) {c : Column} {v : Cell}
    (h : (c,.value v) ∈ restatedBy m .runPreviews) : row' c = v :=
  hs.2 (c,.value v) (mem_restatements hm hto h)

include hfrom hto hd hs htold

theorem readRetained_survives : readRetained parse row' = readRetained parse told := by
  have hgrouped := List.all_eq_true.mp versions_grouped version (mem_versions hfrom hto)
  simp only [grouped,Bool.and_eq_true,List.all_eq_true,decide_eq_true_eq] at hgrouped
  exact readRetained_congr fun c hc => survives_told hd hs htold (hgrouped.1.1.1.1 c hc)

theorem readChange_survives {c : ChangeCells} (hkind : version = 7 → told .changeKind = .text changeKindField)
    (h : readChange told = some c) :
    ∃ c',readChange row' = some c' ∧ (c' = c ∨ c.changeKind = changeKindField ∧ c' = .ofField) := by
  have hgrouped := List.all_eq_true.mp versions_grouped version (mem_versions hfrom hto)
  simp only [grouped,Bool.and_eq_true,Bool.or_eq_true,List.all_eq_true,decide_eq_true_eq] at hgrouped
  rcases hgrouped.1.1.1.2 with hv | hnames
  · have hfield := hkind (by omega)
    obtain ⟨kind,hkind,h⟩ := Option.bind_eq_some_iff.mp h
    obtain ⟨action,_,h⟩ := Option.bind_eq_some_iff.mp h
    obtain ⟨observed,_,h⟩ := Option.bind_eq_some_iff.mp h
    obtain ⟨expected,_,h⟩ := Option.bind_eq_some_iff.mp h
    obtain rfl := Option.some.inj h
    rw [hfield] at hkind
    refine ⟨.ofField,?_,.inr ⟨(Option.some.inj hkind).symm,rfl⟩⟩
    have hcell {c : Column} {v : Cell} (h : (c,.value v) ∈ restatedBy 8 .runPreviews) : row' c = v :=
      survives_restated hs hv (by decide) h
    rw [readChange,hcell (v := .text "field") (by decide),hcell (c := .action) (v := .null) (by decide),
      hcell (c := .observedState) (v := .null) (by decide),hcell (c := .expectedState) (v := .null) (by decide)]
    rfl
  · refine ⟨c,?_,.inl rfl⟩
    rw [readChange_congr fun column hcolumn => survives_told hd hs htold (hnames column hcolumn)]
    exact h

variable {n : ℕ} (hparse : parse "[]" = some (.arr [])) (hn : DigestKnown version n)
include hparse hn

theorem readGuard_survives {g : GuardCells} (h : readGuard parse told = some g) :
    ∃ g',readGuard parse row' = some g' ∧ (g' = g ∨ n < 3 ∧ g' = .unguarded) := by
  have hgrouped := List.all_eq_true.mp versions_grouped version (mem_versions hfrom hto)
  simp only [grouped,Bool.and_eq_true,Bool.or_eq_true,List.all_eq_true,decide_eq_true_eq] at hgrouped
  rcases hgrouped.1.1.2 with hv | hnames
  · refine ⟨.unguarded,?_,.inr ⟨hn.guard hv,rfl⟩⟩
    have hcell {c : Column} {v : Cell} (h : (c,.value v) ∈ restatedBy 10 .runPreviews) : row' c = v :=
      survives_restated hs hv (by decide) h
    rw [readGuard,hcell (v := .text "unavailable") (by decide),hcell (v := .text "guard_not_required") (by decide),
      hcell (c := .guardWindowS) (v := .integer 0) (by decide),
      hcell (c := .guardPrerequisites) (v := .text "[]") (by decide),
      hcell (c := .guardUnmet) (v := .text "[]") (by decide),hcell (v := .text "") (by decide),
      hcell (c := .guardArmed) (v := .integer 0) (by decide)]
    simp [jsonOf,hparse,textOf,integerOf,GuardCells.unguarded]
  · refine ⟨g,?_,.inl rfl⟩
    rw [readGuard_congr fun column hcolumn => survives_told hd hs htold (hnames column hcolumn)]
    exact h

theorem readAssessments_survives {a : AssessmentCells} (h : readAssessments parse told = some a) :
    ∃ a',readAssessments parse row' = some a' ∧ (a' = a ∨ n < 4 ∧ a' = .unassessed) := by
  have hgrouped := List.all_eq_true.mp versions_grouped version (mem_versions hfrom hto)
  simp only [grouped,Bool.and_eq_true,Bool.or_eq_true,List.all_eq_true,decide_eq_true_eq] at hgrouped
  rcases hgrouped.1.2 with hv | hnames
  · refine ⟨.unassessed,?_,.inr ⟨hn.assessments hv,rfl⟩⟩
    have hcell {c : Column} {v : Cell} (h : (c,.value v) ∈ restatedBy 12 .runPreviews) : row' c = v :=
      survives_restated hs hv (by decide) h
    rw [readAssessments,hcell (v := .text "[]") (by decide),
      hcell (c := .authorizationAssessment) (v := .null) (by decide),
      hcell (c := .lifecycleContext) (v := .null) (by decide)]
    simp [jsonOf,sectionOf,hparse,AssessmentCells.unassessed]
  · refine ⟨a,?_,.inl rfl⟩
    rw [readAssessments_congr fun column hcolumn => survives_told hd hs htold (hnames column hcolumn)]
    exact h

omit hparse in
theorem readSelfImpact_survives {s : Option Json} (h : sectionOf parse (told .selfImpact) = some s) :
    ∃ s',sectionOf parse (row' .selfImpact) = some s' ∧ (s' = s ∨ n < 6 ∧ s' = none) := by
  have hgrouped := List.all_eq_true.mp versions_grouped version (mem_versions hfrom hto)
  simp only [grouped,Bool.and_eq_true,Bool.or_eq_true,decide_eq_true_eq] at hgrouped
  rcases hgrouped.2 with hv | hname
  · refine ⟨none,?_,.inr ⟨hn.selfImpact hv,rfl⟩⟩
    rw [survives_restated hs (m := 13) (v := .null) hv (by decide) (by decide)]
    rfl
  · refine ⟨s,?_,.inl rfl⟩
    rw [survives_told hd hs htold hname]
    exact h

/-- Whatever the columns it did not have are taken to hold, a preview decodes to a plan with the
same canonical form at its own digest version. -/
theorem preview_sameCanonical (hkind : version = 7 → told .changeKind = .text changeKindField) {r : PreviewRow}
    (h : previewOf parse told = some r) : ∃ r',previewOf parse row' = some r' ∧ SameCanonical shapes n r r' := by
  obtain ⟨retained,hretained,h⟩ := Option.bind_eq_some_iff.mp h
  obtain ⟨c,hc,h⟩ := Option.bind_eq_some_iff.mp h
  obtain ⟨g,hg,h⟩ := Option.bind_eq_some_iff.mp h
  obtain ⟨a,ha,h⟩ := Option.bind_eq_some_iff.mp h
  obtain ⟨s,himpact,h⟩ := Option.bind_eq_some_iff.mp h
  obtain rfl := Option.some.inj h
  obtain ⟨c',hc',hchange⟩ := readChange_survives hfrom hto hd hs htold hkind hc
  obtain ⟨g',hg',hguard⟩ := readGuard_survives hfrom hto hd hs htold hparse hn hg
  obtain ⟨a',ha',hassessments⟩ := readAssessments_survives hfrom hto hd hs htold hparse hn ha
  obtain ⟨s',hs',hself⟩ := readSelfImpact_survives hfrom hto hd hs htold hn himpact
  refine ⟨retained.having c' g' a' s',?_,sameCanonical_having hchange hguard hassessments hself⟩
  exact read_some ((readRetained_survives hfrom hto hd hs htold).trans hretained) <| read_some hc' <| read_some hg' <|
    read_some ha' <| read_some hs' rfl

end Decoding

section Restated

variable {parse : String → Option Json} {version : ℕ} {content : Content Table Column} {d : TableDef Table Column}
  {row row' told : Row Column}

def currentNames : List Column := retainedNames ++ changeNames ++ guardNames ++ assessmentNames ++ [.selfImpact]

theorem previewOf_kept (row : Row Column) : previewOf parse (kept currentNames row) = previewOf parse row := rfl

/-- A row with the missing columns restated is read as the upgraded one. -/
theorem previewOf_restated (hcovered : Covered version .runPreviews d)
    (hs : Survives version content d .runPreviews row row') (htold : Survives version content d .runPreviews row told) :
    previewOf parse row' = previewOf parse told := by
  rw [← previewOf_kept row',← previewOf_kept told]
  apply congrArg
  apply kept_congr
  intro c hc
  obtain ⟨current,hcurrent,hcolumns⟩ := hcovered
  have hname : ∃ column ∈ current.columns,column.name = c := by
    have hall : ∀ c ∈ currentNames,∃ column ∈ SelfImpactOverride.runPreviews.columns,column.name = c := by decide +kernel
    obtain rfl : SelfImpactOverride.runPreviews = current := Option.some.inj hcurrent
    exact hall c hc
  obtain ⟨column,hcolumn,rfl⟩ := hname
  rcases hcolumns column hcolumn with ⟨column',hcolumn',hsame⟩ | ⟨p,hp,hsame⟩
  · rw [← hsame,hs.1 column' hcolumn',htold.1 column' hcolumn']
  · rw [← hsame,hs.2 p hp,htold.2 p hp]

end Restated

end Migrations
end LocalPlane
