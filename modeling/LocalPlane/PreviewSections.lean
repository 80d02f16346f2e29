import LocalPlane.StoredPlan

/-!
# The sections a preview is read into

Columns that came later are hashed into a plan from a later digest version on. A plan of an
earlier one decodes to the same canonical form whatever it is given for them.
-/

set_option linter.dupNamespace false

namespace LocalPlane
namespace Planning

open LineProtocol (Json)

section Sections

variable {shapes : RuntimeOwnerCorrelation → Bool}

/-- What each section of a plan is read from. -/
structure PlanRead (shapes : RuntimeOwnerCorrelation → Bool) (run : RunRow) (p : RunPlan) : Prop where
  operation : Spelled.read run.preview.operation = some p.operation
  target : p.hostId = run.hostId ∧ p.objectId = run.objectId
  change : changeFromRecord run.preview = some p.change
  evidence : p.evidence = ⟨run.preview.observationId,run.preview.sweepId,run.preview.observedAt,
    run.preview.driftFindingId,run.preview.intentId,run.preview.intentVersion,run.preview.intentCapability,
    run.preview.intentProvider⟩
  ownership : ∃ claims gaps readings,Json.list? claimFromDict run.preview.ownershipClaims = some claims ∧
    Json.texts? run.preview.ownershipGaps = some gaps ∧ readingsFromDict run.preview.providerReadings = some readings ∧
    p.ownership = ⟨run.preview.ownershipState,run.preview.ownershipReason,claims,gaps,readings⟩
  protection : protectionFromRecord run.preview = some p.protection
  risk : ∃ tier factors,Spelled.read run.preview.riskTier = some tier ∧
    Json.list? factorFromDict run.preview.riskFactors = some factors ∧ p.risk = ⟨tier,factors⟩
  confirmation : ∃ method reasons,Spelled.read run.preview.confirmationMethod = some method ∧
    Json.texts? run.preview.confirmationReasons = some reasons ∧
    p.confirmation = ⟨flagged run.preview.confirmationRequired,method,run.preview.confirmationSource,reasons,
      run.preview.confirmationPolicy,flagged run.preview.confirmationTokenIssued,
      run.preview.executionAvailability = Spelled.code ExecutionAvailability.available,
      if run.preview.executionAvailability = Spelled.code ExecutionAvailability.available then none
      else some "execution_not_implemented"⟩
  execution : ∃ availability eligibility blockers,
    Spelled.read run.preview.executionAvailability = some availability ∧
    Spelled.read run.preview.executionEligibility = some eligibility ∧
    Json.texts? run.preview.executionBlockers = some blockers ∧
    p.execution = ⟨availability,eligibility,blockers,run.preview.executionProvider,run.preview.requiredCapability,
      flagged run.preview.capabilityDeclared⟩
  guard : ∃ availability prerequisites unmet,Spelled.read run.preview.guardAvailability = some availability ∧
    Json.spellings? run.preview.guardPrerequisites = some prerequisites ∧
    Json.spellings? run.preview.guardUnmet = some unmet ∧
    p.guard = ⟨availability,run.preview.guardReason,run.preview.guardWindowS,prerequisites,unmet,
      run.preview.guardGuarantee⟩
  recovery : ∃ mode,Spelled.read run.preview.recoveryMode = some mode ∧
    p.recovery = ⟨mode,flagged run.preview.recoveryRollbackPossible,flagged run.preview.recoveryArmed,
      run.preview.recoveryGuarantee,run.preview.recoveryReason⟩
  verification : p.verification = ⟨flagged run.preview.verificationExecuted,run.preview.verificationCapability,
    run.preview.verificationProvider,run.preview.verificationCondition⟩
  authorization : section? AuthorizationAssessment.fromDict run.preview.authorizationAssessment = some p.authorization
  lifecycleContext : section? (SystemdLifecycleContext.fromDict shapes) run.preview.lifecycleContext =
    some p.lifecycleContext
  selfImpact : section? BackendSelfImpactAssessment.fromDict run.preview.selfImpact = some p.selfImpact

theorem planRead_of {run : RunRow} {p : RunPlan} (h : planFromRecord shapes run = some p) : PlanRead shapes run p := by
  -- one field after another, as they are read
  obtain ⟨operation,hoperation,h⟩ := Option.bind_eq_some_iff.mp h
  obtain ⟨change,hchange,h⟩ := Option.bind_eq_some_iff.mp h
  obtain ⟨claims,hclaims,h⟩ := Option.bind_eq_some_iff.mp h
  obtain ⟨gaps,hgaps,h⟩ := Option.bind_eq_some_iff.mp h
  obtain ⟨readings,hreadings,h⟩ := Option.bind_eq_some_iff.mp h
  obtain ⟨protection,hprotection,h⟩ := Option.bind_eq_some_iff.mp h
  obtain ⟨tier,htier,h⟩ := Option.bind_eq_some_iff.mp h
  obtain ⟨factors,hfactors,h⟩ := Option.bind_eq_some_iff.mp h
  obtain ⟨method,hmethod,h⟩ := Option.bind_eq_some_iff.mp h
  obtain ⟨reasons,hreasons,h⟩ := Option.bind_eq_some_iff.mp h
  obtain ⟨availability,havailability,h⟩ := Option.bind_eq_some_iff.mp h
  obtain ⟨eligibility,heligibility,h⟩ := Option.bind_eq_some_iff.mp h
  obtain ⟨blockers,hblockers,h⟩ := Option.bind_eq_some_iff.mp h
  obtain ⟨guard,hguard,h⟩ := Option.bind_eq_some_iff.mp h
  obtain ⟨prerequisites,hprerequisites,h⟩ := Option.bind_eq_some_iff.mp h
  obtain ⟨unmet,hunmet,h⟩ := Option.bind_eq_some_iff.mp h
  obtain ⟨mode,hmode,h⟩ := Option.bind_eq_some_iff.mp h
  obtain ⟨authorization,hauthorization,h⟩ := Option.bind_eq_some_iff.mp h
  obtain ⟨context,hcontext,h⟩ := Option.bind_eq_some_iff.mp h
  obtain ⟨impact,himpact,h⟩ := Option.bind_eq_some_iff.mp h
  obtain rfl := Option.some.inj h
  exact {
    operation := hoperation
    target := ⟨rfl,rfl⟩
    change := hchange
    evidence := rfl
    ownership := ⟨claims,gaps,readings,hclaims,hgaps,hreadings,rfl⟩
    protection := hprotection
    risk := ⟨tier,factors,htier,hfactors,rfl⟩
    confirmation := ⟨method,reasons,hmethod,hreasons,rfl⟩
    execution := ⟨availability,eligibility,blockers,havailability,heligibility,hblockers,rfl⟩
    guard := ⟨guard,prerequisites,unmet,hguard,hprerequisites,hunmet,rfl⟩
    recovery := ⟨mode,hmode,rfl⟩
    verification := rfl
    authorization := hauthorization
    lifecycleContext := hcontext
    selfImpact := himpact }

theorem planRead_iff {run : RunRow} {p : RunPlan} : planFromRecord shapes run = some p ↔ PlanRead shapes run p := by
  refine ⟨planRead_of,?_⟩
  rintro ⟨hoperation,⟨hhost,hobject⟩,hchange,hevidence,⟨claims,gaps,readings,hclaims,hgaps,hreadings,hownership⟩,
    hprotection,⟨tier,factors,htier,hfactors,hrisk⟩,⟨method,reasons,hmethod,hreasons,hconfirmation⟩,
    ⟨availability,eligibility,blockers,havailability,heligibility,hblockers,hexecution⟩,
    ⟨guard,prerequisites,unmet,hguard,hprerequisites,hunmet,hplan⟩,⟨mode,hmode,hrecovery⟩,hverification,hauthorization,
    hcontext,himpact⟩
  refine read_some hoperation <| read_some hchange <| read_some hclaims <| read_some hgaps <| read_some hreadings <|
    read_some hprotection <| read_some htier <| read_some hfactors <| read_some hmethod <| read_some hreasons <|
    read_some havailability <| read_some heligibility <| read_some hblockers <| read_some hguard <|
    read_some hprerequisites <| read_some hunmet <| read_some hmode <| read_some hauthorization <|
    read_some hcontext <| read_some himpact ?_
  rw [Option.pure_def,Option.some.injEq]
  simp only [← hhost,← hobject,← hevidence,← hownership,← hrisk,← hconfirmation,← hexecution,← hplan,← hrecovery,
    ← hverification]

end Sections

/-! The columns of later versions -/

structure ChangeCells where
  changeKind : String
  action : Option String
  observedState : Option String
  expectedState : Option String

structure GuardCells where
  guardAvailability : String
  guardReason : String
  guardWindowS : Int
  guardPrerequisites : Json
  guardUnmet : Json
  guardGuarantee : String
  guardArmed : Int

structure AssessmentCells where
  protectionAssessments : Json
  authorizationAssessment : Option Json
  lifecycleContext : Option Json

def ChangeCells.ofField : ChangeCells := ⟨changeKindField,none,none,none⟩
def GuardCells.unguarded : GuardCells := ⟨"unavailable","guard_not_required",0,.arr [],.arr [],"",0⟩
def AssessmentCells.unassessed : AssessmentCells := ⟨.arr [],none,none⟩

def PreviewRow.having (r : PreviewRow) (c : ChangeCells) (g : GuardCells) (a : AssessmentCells) (s : Option Json) :
    PreviewRow :=
  { r with
    changeKind := c.changeKind, action := c.action, observedState := c.observedState, expectedState := c.expectedState
    guardAvailability := g.guardAvailability, guardReason := g.guardReason, guardWindowS := g.guardWindowS
    guardPrerequisites := g.guardPrerequisites, guardUnmet := g.guardUnmet, guardGuarantee := g.guardGuarantee
    guardArmed := g.guardArmed, protectionAssessments := a.protectionAssessments
    authorizationAssessment := a.authorizationAssessment, lifecycleContext := a.lifecycleContext, selfImpact := s }

section Canonical

variable {shapes : RuntimeOwnerCorrelation → Bool} {n : ℕ} {r r' r'' : PreviewRow}

variable (shapes n r r') in
/-- Where one preview decodes the other does, to a plan that reads the same at a digest version. -/
def SameCanonical : Prop := ∀ hostId objectId p,planFromRecord shapes ⟨hostId,objectId,r⟩ = some p →
  ∃ q,planFromRecord shapes ⟨hostId,objectId,r'⟩ = some q ∧ q.canonical n = p.canonical n

theorem sameCanonical_refl (r : PreviewRow) : SameCanonical shapes n r r := fun _ _ p hp => ⟨p,hp,rfl⟩

theorem SameCanonical.trans (h : SameCanonical shapes n r r') (h' : SameCanonical shapes n r' r'') :
    SameCanonical shapes n r r'' := by
  intro hostId objectId p hp
  obtain ⟨q,hq,hsame⟩ := h hostId objectId p hp
  obtain ⟨q',hq',hsame'⟩ := h' hostId objectId q hq
  exact ⟨q',hq',hsame'.trans hsame⟩

variable {c c' : ChangeCells} {g g' : GuardCells} {a a' : AssessmentCells} {s s' : Option Json}

theorem sameCanonical_change (h : c.changeKind = changeKindField) :
    SameCanonical shapes n (r.having c g a s) (r.having .ofField g a s) := by
  intro hostId objectId p hp
  have hread := planRead_of hp
  have hchange : changeFromRecord (r.having .ofField g a s) = changeFromRecord (r.having c g a s) := by
    simp [changeFromRecord,PreviewRow.having,ChangeCells.ofField,h,changeKindAction,changeKindField]
  exact ⟨p,planRead_iff.mpr { hread with change := hchange.trans hread.change },rfl⟩

theorem sameCanonical_guard (hn : n < 3) : SameCanonical shapes n (r.having c g a s) (r.having c .unguarded a s) := by
  intro hostId objectId p hp
  have hread := planRead_of hp
  refine ⟨{ p with guard := ⟨.unavailable,"guard_not_required",0,[],[],""⟩ },planRead_iff.mpr
    { hread with guard := ⟨.unavailable,[],[],Spelled.read_code GuardAvailability.unavailable,rfl,rfl,rfl⟩ },?_⟩
  simp only [RunPlan.canonical,if_neg (show ¬ 3 ≤ n by omega)]

theorem protection_unassessed {protection : ProtectionAssessment}
    (h : protectionFromRecord (r.having c g a s) = some protection) :
    ∃ assessed,protectionFromRecord (r.having c g .unassessed s) = some { protection with assessed } := by
  obtain ⟨reasons,hreasons,h⟩ := Option.bind_eq_some_iff.mp h
  obtain ⟨unresolved,hunresolved,h⟩ := Option.bind_eq_some_iff.mp h
  obtain ⟨_,_,h⟩ := Option.bind_eq_some_iff.mp h
  obtain ⟨status,hstatus,h⟩ := Option.bind_eq_some_iff.mp h
  obtain ⟨path,hpath,h⟩ := Option.bind_eq_some_iff.mp h
  obtain ⟨missing,hmissing,h⟩ := Option.bind_eq_some_iff.mp h
  obtain rfl := Option.some.inj h
  have hnone : Json.list? assessmentFromDict (.arr []) = some [] := rfl
  exact ⟨assessedFromLists (r.having c g .unassessed s) reasons unresolved,read_some hreasons <|
    read_some hunresolved <| read_some hnone <| read_some hstatus <| read_some hpath <| read_some hmissing rfl⟩

theorem sameCanonical_assessments (hn : n < 4) :
    SameCanonical shapes n (r.having c g a s) (r.having c g .unassessed s) := by
  intro hostId objectId p hp
  have hread := planRead_of hp
  obtain ⟨assessed,hprotection⟩ := protection_unassessed hread.protection
  refine ⟨{ p with protection := { p.protection with assessed }, authorization := none, lifecycleContext := none },
    planRead_iff.mpr { hread with protection := hprotection, authorization := rfl, lifecycleContext := rfl },?_⟩
  simp only [RunPlan.canonical,ProtectionAssessment.canonical,if_neg (show ¬ 4 ≤ n by omega)]

theorem sameCanonical_selfImpact (hn : n < 6) : SameCanonical shapes n (r.having c g a s) (r.having c g a none) := by
  intro hostId objectId p hp
  have hread := planRead_of hp
  refine ⟨{ p with selfImpact := none },planRead_iff.mpr { hread with selfImpact := rfl },?_⟩
  simp only [RunPlan.canonical,if_neg (show ¬ 6 ≤ n by omega)]

/-- What a preview was given for columns its digest version does not cover makes no difference. -/
theorem sameCanonical_having (hc : c' = c ∨ c.changeKind = changeKindField ∧ c' = .ofField)
    (hg : g' = g ∨ n < 3 ∧ g' = .unguarded) (ha : a' = a ∨ n < 4 ∧ a' = .unassessed) (hs : s' = s ∨ n < 6 ∧ s' = none) :
    SameCanonical shapes n (r.having c g a s) (r.having c' g' a' s') := by
  have hchange : SameCanonical shapes n (r.having c g a s) (r.having c' g a s) := by
    rcases hc with rfl | ⟨hkind,rfl⟩
    · exact sameCanonical_refl _
    · exact sameCanonical_change hkind
  have hguard : SameCanonical shapes n (r.having c' g a s) (r.having c' g' a s) := by
    rcases hg with rfl | ⟨hn,rfl⟩
    · exact sameCanonical_refl _
    · exact sameCanonical_guard hn
  have hassessments : SameCanonical shapes n (r.having c' g' a s) (r.having c' g' a' s) := by
    rcases ha with rfl | ⟨hn,rfl⟩
    · exact sameCanonical_refl _
    · exact sameCanonical_assessments hn
  have himpact : SameCanonical shapes n (r.having c' g' a' s) (r.having c' g' a' s') := by
    rcases hs with rfl | ⟨hn,rfl⟩
    · exact sameCanonical_refl _
    · exact sameCanonical_selfImpact hn
  exact ((hchange.trans hguard).trans hassessments).trans himpact

end Canonical

end Planning
end LocalPlane
