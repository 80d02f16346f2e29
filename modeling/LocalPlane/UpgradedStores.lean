import LocalPlane.StoreConstraints
import LocalPlane.UpgradedPreviews
import LocalPlane.UpgradedRules

/-!
# Upgrades preserve what the store says

Every valid store of the seventh to the fifteenth version that a build can have written is
upgraded, keeps its rows and stays under its rules. A store the constraints of the twelfth version
let in, though no build of that time wrote it, is refused by the thirteenth migration.
-/

set_option linter.dupNamespace false

namespace LocalPlane
namespace Migrations

open Sql Planning
open LineProtocol (Json)

section Preserved

variable (read : String → String → Cell) (shapes : RuntimeOwnerCorrelation → Bool) (parse : String → Option Json)
  (version : ℕ)

/-- What a preview decodes to before and after. -/
structure Decodes (content : Content Table Column) (d : TableDef Table Column) (row row' : Row Column) : Prop where
  restated : ∀ told,Survives version content d .runPreviews row told → ∀ hostId objectId,
    planOf parse shapes hostId objectId row' = planOf parse shapes hostId objectId told
  canonical : ∀ told,(∀ c ∈ d.columns,told c.name = row c.name) →
    (version = 7 → told .changeKind = .text changeKindField) →
    ∀ n,row .digestVersion = .integer n → DigestKnown version n.toNat →
    ∀ hostId objectId p,planOf parse shapes hostId objectId told = some p →
      ∃ q,planOf parse shapes hostId objectId row' = some q ∧ q.canonical n.toNat = p.canonical n.toNat

/-- What is left of a store after an upgrade. -/
structure Preserved (content after : Content Table Column) : Prop where
  valid : currentSchema.Valid read after
  covered : ∀ t d,(schemaAt version).table? t = some d → Covered version t d
  rows : ∀ t d,(schemaAt version).table? t = some d →
    List.Forall₂ (Survives version content d t) (content t) (after t)
  previews : ∀ d,(schemaAt version).table? .runPreviews = some d →
    List.Forall₂ (Decodes shapes parse version content d) (content .runPreviews) (after .runPreviews)
  triggers : ∀ n g,(n,g) ∈ (schemaAt version).triggers →
    ∃ g',(n,g') ∈ currentSchema.triggers ∧ g.KeptBy read (Bound n) g'
  keys : ∀ t d,(schemaAt version).table? t = some d → ∀ k ∈ (schemaAt version).keys t,k ∈ currentSchema.keys t ∨
    (t = .runConfirmations ∧ k = oneConfirmation ∧ oneApplyConfirmation ∈ currentSchema.keys .runConfirmations)

end Preserved

section Upgrading

variable {read : String → String → Cell} {shapes : RuntimeOwnerCorrelation → Bool} {parse : String → Option Json}
  {version : ℕ}

theorem decodes_of_survives (hparse : parse "[]" = some (.arr [])) (hfrom : 7 ≤ version) (hto : version ≤ 15)
    {content : Content Table Column} {d : TableDef Table Column} (hd : (schemaAt version).table? .runPreviews = some d)
    {row row' : Row Column} (hs : Survives version content d .runPreviews row row') :
    Decodes shapes parse version content d row row' where
  restated := by
    intro told htold hostId objectId
    rw [planOf,previewOf_restated (restates hfrom hto hd).2 hs htold,planOf]
  canonical := by
    intro told htold hkind n _ hn hostId objectId p hp
    obtain ⟨r,hr,hp⟩ := Option.bind_eq_some_iff.mp hp
    obtain ⟨r',hr',hsame⟩ := preview_sameCanonical hfrom hto hd hs htold hparse hn hkind hr
    obtain ⟨q,hq,hcanonical⟩ := hsame hostId objectId p hp
    exact ⟨q,read_some hr' hq,hcanonical⟩

/-- A valid store at any version from the seventh on is upgraded, and says what it said. -/
theorem upgrade_preserves (hparse : parse "[]" = some (.arr [])) (hfrom : 7 ≤ version) (hto : version ≤ 15)
    (content : Content Table Column) (hvalid : (schemaAt version).Valid read content) (h : Recorded version content) :
    ∃ after,Database.upgrade read ⟨schemaAt version,content⟩ ((remaining version).map (·.migration)) =
      some ⟨currentSchema,after⟩ ∧ Preserved read shapes parse version content after := by
  obtain ⟨after,hupgrade,hafter⟩ := upgrade_succeeds hfrom hto hvalid h
  refine ⟨after,hupgrade,?_⟩
  exact {
    valid := hafter
    covered := fun _ _ hd => (restates hfrom hto hd).2
    rows := fun _ _ hd => upgrade_survives hfrom hto hupgrade hd
    previews := fun _ hd => (upgrade_survives hfrom hto hupgrade hd).imp fun _ _ hs =>
      decodes_of_survives hparse hfrom hto hd hs
    triggers := fun _ _ hg => trigger_kept hfrom hto hg
    keys := fun _ _ hd _ hk => key_kept hfrom hto hd hk }

end Upgrading

section Services

/-- A preview of starting a service, at some digest version, in a store of the twelfth version. -/
def servicePreview (digest : Int) : List (Submission Table Column) := [
  insertion (schemaAt 12) .hosts [(.hostId,.text "h"),(.identityConfidence,.text "high")],
  insertion (schemaAt 12) .objects [(.objectId,.text "o"),(.hostId,.text "h"),(.identityBasis,.text "kernel_name"),
    (.identityConfidence,.text "low"),(.managementState,.text "observed")],
  insertion (schemaAt 12) .observationSweeps [(.sweepId,.text "s"),(.hostId,.text "h"),(.status,.text "ok")],
  insertion (schemaAt 12) .observations [(.observationId,.text "b"),(.sweepId,.text "s"),(.hostId,.text "h"),
    (.objectId,.text "o"),(.fidelity,.text "complete"),(.healthState,.text "healthy")],
  insertion (schemaAt 12) .runPreviews [(.previewId,.text "p"),(.digestVersion,.integer digest),
    (.operation,.text "systemd.service.start"),(.changeKind,.text "action"),(.action,.text "start"),
    (.observedState,.text "inactive"),(.expectedState,.text "active"),(.observationId,.text "b"),(.sweepId,.text "s"),
    (.protectionStatus,.text "clear"),(.protectionManagementPath,.text "not_on_management_path"),
    (.authorizationAssessment,.text "\x7b\x7d"),(.lifecycleContext,.text "\x7b\x7d"),(.riskTier,.text "low"),
    (.confirmationMethod,.text "acknowledge"),(.confirmationSource,.text "policy"),
    (.confirmationTokenIssued,.integer 0),(.executionAvailability,.text "available"),
    (.executionEligibility,.text "eligible"),(.recoveryMode,.text "none"),(.recoveryArmed,.integer 0),
    (.verificationExecuted,.integer 0)]]

def serviceStore (digest : Int) : Content Table Column := (schemaAt 12).run noJson noRows (servicePreview digest)

/-- The schema of the twelfth version is followed once for everything these two stores are asked. -/
theorem serviceStores_checked : (∀ digest ∈ [(6 : Int),5],
      (∀ e ∈ (schemaAt 12).tables,∀ row ∈ serviceStore digest e.1,e.2.passes noJson row = true) ∧
      (∀ e ∈ (schemaAt 12).tables,(serviceStore digest e.1).Pairwise fun row other =>
        (schemaAt 12).clashes noJson e.1 row other = false) ∧ (schemaAt 12).anchoredAll (serviceStore digest) = true) ∧
    (∀ row ∈ serviceStore 6 .runConfirmations,row .method ≠ .text "typed") ∧
    (Database.upgrade noJson ⟨schemaAt 12,serviceStore 6⟩ ((remaining 12).map (·.migration))).isNone = true ∧
    (∀ row ∈ serviceStore 5 .runPreviews,row .digestVersion = .integer 5) := by decide +kernel

theorem serviceStore_valid : (schemaAt 12).Valid noJson (serviceStore 6) ∧ (schemaAt 12).Valid noJson (serviceStore 5) := by
  obtain ⟨hpasses,hapart,hanchored⟩ := serviceStores_checked.1 6 (by decide)
  obtain ⟨hpasses',hapart',hanchored'⟩ := serviceStores_checked.1 5 (by decide)
  exact ⟨Schema.valid_of_tables hpasses hapart hanchored,Schema.valid_of_tables hpasses' hapart' hanchored'⟩

/-- A confirmation of one run, for one purpose or another. -/
def confirmationFor (purpose : String) : Row Column
  | .runId => .text "r"
  | .confirmationId => .text purpose
  | .purpose => .text purpose
  | _ => .null

/-- One preview, of an action, that names no intent. -/
def actionPreviews : Content Table Column
  | .runPreviews => [fun c => if c = .previewId then .text "p" else .null]
  | _ => []

def actionRun : Scope Column := ⟨fun c => if c = .previewId then .text "p" else .null,fun _ => .null⟩

/-- The constraints of the twelfth version let in what the thirteenth migration refuses. Since the
ninth a run may be confirmed for another purpose, since the eighth it may rest on no intent. -/
theorem upgrade_limits : ((schemaAt 12).Valid noJson ((schemaAt 12).run noJson noRows (servicePreview 6)) ∧
      (∀ row ∈ (schemaAt 12).run noJson noRows (servicePreview 6) .runConfirmations,row .method ≠ .text "typed") ∧
      Database.upgrade noJson ⟨schemaAt 12,(schemaAt 12).run noJson noRows (servicePreview 6)⟩
        ((remaining 12).map (·.migration)) = none) ∧
    ((schemaAt 7).clashes noJson .runConfirmations (confirmationFor "apply") (confirmationFor "recovery_retry") = true ∧
      currentSchema.clashes noJson .runConfirmations (confirmationFor "apply") (confirmationFor "recovery_retry") = false) ∧
    (∃ e ∈ (schemaAt 7).triggers,e.1 = .runsIntentBelongsToObject ∧ e.2.fires noJson actionPreviews actionRun = true ∧
      ∀ e' ∈ currentSchema.triggers,e'.1 = .runsIntentBelongsToObject →
        e'.2.fires noJson actionPreviews actionRun = false) := by
  obtain ⟨_,huntyped,hrefused,_⟩ := serviceStores_checked
  exact ⟨⟨serviceStore_valid.1,huntyped,Option.isNone_iff_eq_none.mp hrefused⟩,by decide +kernel,by decide +kernel⟩

theorem serviceStore_recorded : Recorded 12 (serviceStore 5) where
  confirmations := by
    intro h
    contradiction
  previews := by
    intro _ row hrow _ n hn
    rw [serviceStores_checked.2.2.2 row hrow,Cell.integer.injEq] at hn
    omega

def readEmpty : String → Option Json
  | "[]" => some (.arr [])
  | "{}" => some (.obj [])
  | _ => none

theorem upgrade_preserves_service : ∃ after,
    Database.upgrade noJson ⟨schemaAt 12,serviceStore 5⟩ ((remaining 12).map (·.migration)) =
      some ⟨currentSchema,after⟩ ∧ Preserved noJson (fun _ => true) readEmpty 12 (serviceStore 5) after :=
  upgrade_preserves rfl (by decide) (by decide) (serviceStore 5) serviceStore_valid.2 serviceStore_recorded

end Services

end Migrations
end LocalPlane
