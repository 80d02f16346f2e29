import LocalPlane.Watched
import LocalPlane.SequentialRequests
import LocalPlane.ExecutionGate
import LocalPlane.Soundness
import LocalPlane.Scenarios
import LocalPlane.PlainRequests

/-!
# The management-path gate

An apply crosses the write boundary only where the fresh plan of its own request passed
every gate. For an interface that leaves two ways through: proven off the path, or proven
on it and held by a guard.
-/

set_option linter.dupNamespace false

namespace LocalPlane

open Interleaved Planning Service

namespace Planning

theorem assessResourceProtection_relation (v : ManagementPathVerdict) (resourceId : String) (applicable : Bool) :
    (assessResourceProtection v resourceId applicable).managementPath = v.relation resourceId := by
  unfold assessResourceProtection assessManagementPathReason
  cases applicable with
  | false => rfl
  | true => cases v.relation resourceId <;> rfl

/-- Without an assessment of its own impact no plan is opened to an override. -/
theorem assessExecution_ordinary (definition : OperationDefinition) (availability : ExecutionAvailability)
    (provider : Option String) (capabilityDeclared : Bool) (ownershipBlockReason : Option String)
    (ownershipGaps : List String) (protection : ProtectionAssessment) (guard : GuardPlan) :
    (assessExecution definition availability provider capabilityDeclared ownershipBlockReason ownershipGaps
      protection guard none).eligibility ≠ .selfImpactOverrideRequired := by
  unfold assessExecution
  simp only [Option.any_none,Bool.false_and]
  split
  · simp
  · split <;> simp

/-- A plan passes now exactly when it is the one published and stands to the request as it has to. -/
theorem planNow_none {published : Preview} {c : PlanningContext} {stale : Bool} :
    planNow published c stale = none ↔ ∃ plan, c.replan = .ok plan ∧ stale = false ∧
      (asksResourceRelation c.operation.definition → plan.protection.managementPath = requiredRelation published) ∧
      plan.execution.eligibility = permittedEligibility published := by
  unfold planNow
  cases hplan : c.replan with
  | error code => simp
  | ok plan =>
    by_cases hasks : asksResourceRelation c.operation.definition ∧ plan.protection.managementPath ≠ requiredRelation published
    · cases stale <;> simp [hasks]
    · cases stale with
      | true => simp
      | false =>
        have hrelation : asksResourceRelation c.operation.definition →
            plan.protection.managementPath = requiredRelation published := by simpa using hasks
        simp only [Bool.false_eq_true,if_false,if_neg hasks]
        by_cases he : plan.execution.eligibility = permittedEligibility published
        · rw [if_neg (not_not.mpr he)]
          exact ⟨fun _ => ⟨plan,rfl,trivial,hrelation,he⟩,fun _ => rfl⟩
        · rw [if_pos he]
          refine ⟨fun h => (by cases h),fun ⟨plan',hplan',_,_,he'⟩ => ?_⟩
          obtain rfl := Except.ok.inj hplan'
          exact absurd he' he

theorem permitted_executable {published : Preview} (h : published.executable) :
    permittedEligibility published = published.eligibility := by
  cases he : published.eligibility <;>
    simp_all [Preview.executable,permittedEligibility,Preview.requiresOverride,Preview.isGuarded]

theorem interface_replan {c : PlanningContext} {plan : FreshPlan} (ho : c.operation = .networkInterfaceReconcileMtu)
    (h : c.replan = .ok plan) : plan = c.interfacePlan := by
  unfold PlanningContext.replan at h
  rw [ho] at h
  split at h
  · cases h
  · exact (Except.ok.inj h).symm

/-- An interface passes off its request's path, or on it where the plan is guarded. -/
theorem interface_passes {published : Preview} {c : PlanningContext} {stale : Bool}
    (ho : c.operation = .networkInterfaceReconcileMtu) (he : published.executable)
    (h : planNow published c stale = none) :
    published.eligibility = .eligible ∧ c.managementPath.relation c.resourceId = .notOnManagementPath ∨
    published.eligibility = .guarded ∧ c.managementPath.relation c.resourceId = .onManagementPath := by
  obtain ⟨plan,hplan,_,hasks,heligible⟩ := planNow_none.mp h
  obtain rfl := interface_replan ho hplan
  have hrelation : c.managementPath.relation c.resourceId = requiredRelation published := by
    rw [← hasks (by rw [ho]; rfl)]
    exact (assessResourceProtection_relation ..).symm
  rw [permitted_executable he] at heligible
  cases hpublished : published.eligibility with
  | eligible => exact .inl ⟨rfl,by simp [hrelation,requiredRelation,Preview.isGuarded,hpublished]⟩
  | guarded => exact .inr ⟨rfl,by simp [hrelation,requiredRelation,Preview.isGuarded,hpublished]⟩
  | selfImpactOverrideRequired => exact absurd (heligible.trans hpublished) (assessExecution_ordinary _ _ _ _ _ _ _ _)
  | blocked => simp [Preview.executable,hpublished] at he

end Planning

def Op.replanned : Op → Option RunId
  | .replan r => some r
  | _ => none

/-- What each request's arrival says about each Run's target when it is planned for again. -/
structure Site where
  operation : RunId → OperationType
  resource : RunId → String
  context : RequestId → RunId → PlanningContext
  stale : RequestId → RunId → Bool
  sameOperation : ∀ i r, (context i r).operation = operation r
  sameTarget : ∀ i r, (context i r).resourceId = resource r

namespace Site

variable (site : Site)

/-- How the target stands to the path this request arrived over. -/
def relation (i : RequestId) (r : RunId) : ManagementPathRelation :=
  (site.context i r).managementPath.relation (site.resource r)

/-- An apply that re-plans is answered from the evidence of its own request. -/
def Answers (i : RequestId) (op : Op) (out : Outside) (w : World) : Prop :=
  ∀ r ∈ op.replanned, w.requests[i]? = some (.apply r) →
    out.refusal = planNow (w.files r).preview (site.context i r) (site.stale i r)

def gated : Regime engine where
  step i op out w := site.Answers i op out w

/-- What an apply that crosses the boundary has been through. -/
structure Admits (i : RequestId) (r : RunId) (x : Rows) : Prop where
  interface : site.operation r = .networkInterfaceReconcileMtu →
    x.preview.eligibility = .eligible ∧ site.relation i r = .notOnManagementPath ∨
    x.preview.eligibility = .guarded ∧ site.relation i r = .onManagementPath ∧ ∃ g, x.guard = some g ∧ g.armed
  replanned : ∃ plan, (site.context i r).replan = .ok plan ∧ plan.execution.eligibility = x.preview.eligibility

end Site

def Commit.crosses : Commit → Bool
  | .cross .. => true
  | _ => false

/-- Everything but the boundary. -/
def Op.Uncrossing : Op → Prop
  | .commit _ c => c.crosses = false
  | _ => True

/-- An apply of one Run as its plans pass or do not; it may cross only for that Run. -/
def gate (r : RunId) (preview : RunId → Preview) (verdict : Option String) : View signature where
  State := Unit
  fits
    | .commit r' (.cross ..),_ => r' = r ∧ (preview r).executable ∧ verdict = none
    | _,_ => True
  answers
    | .run r',_,answer => answer.id = r' ∧ answer.preview = preview r'
    | .acquire r',_,answer => ∀ run, answer = .ok run → run.id = r' ∧ run.preview = preview r'
    | .replan r',_,answer => r' = r → answer = verdict
    | _,_,_ => True
  after _ _ _ := ()

namespace Service

variable {r : RunId} {preview : RunId → Preview} {verdict : Option String} {α β : Type} {run : RunRecord}

theorem uncrossing_of_plain {p : Service α} (h : p.All Op.Plain) : p.All Op.Uncrossing :=
  h.mono fun op hop => by
    cases op with
    | commit r c => cases c <;> first | rfl | cases hop
    | _ => trivial

variable {s : Unit}

/-- What keeps away from the boundary is free to go. -/
theorem gate_uncrossing {p : Service α} (h : p.All Op.Uncrossing) :
    (gate r preview verdict).Leads p s fun _ _ => True := by
  induction p generalizing s with
  | ret x => exact fun _ _ => trivial
  | act op next ih =>
    refine ⟨?_,fun a _ => ih a (h.2 a)⟩
    cases op with
    | commit r' c => cases c <;> first | trivial | cases h.1
    | _ => trivial

theorem gate_plain {p : Service α} (h : p.All Op.Plain) : (gate r preview verdict).Leads p s fun _ _ => True :=
  gate_uncrossing (uncrossing_of_plain h)

theorem gate_after {p : Service α} {f : α → Service β} {R : β → Unit → Prop} (h : p.All Op.Plain)
    (hf : ∀ a, (gate r preview verdict).Leads (f a) () R) : (gate r preview verdict).Leads (p >>= f) s R :=
  (gate_plain h).bind fun a _ _ => hf a

/-- A record of the Run as it was published. -/
def Published (r : RunId) (preview : RunId → Preview) (run : RunRecord) : Prop := run.id = r ∧ run.preview = preview r

theorem gate_run {r' : RunId} : (gate r preview verdict).Leads (ask (.run r')) s fun run _ => Published r' preview run :=
  ⟨trivial,fun _ ha => View.Leads.ret ha⟩

/-- The gates of an apply are behind it only when its plan is executable and passes now. -/
theorem gate_gates (hrun : Published r preview run) : (gate r preview verdict).Leads (gates run) s fun run' _ =>
    Published r preview run' ∧ (preview r).executable ∧ verdict = none := by
  obtain ⟨rfl,hpreview⟩ := hrun
  unfold gates
  refine gate_after (plain_of_reads (requireTarget_reads _)) fun _ => ?_
  have hexecutable : (gate run.id preview verdict).Leads (requireExecutablePreview run) () fun _ _ =>
      (preview run.id).executable := by
    unfold requireExecutablePreview
    split
    · next he => exact View.Leads.ret (hpreview ▸ he)
    · exact View.Leads.error
  refine hexecutable.bind fun _ _ he => ?_
  have hplan : (gate run.id preview verdict).Leads (planNow run.id) () fun _ _ => verdict = none := by
    refine ⟨trivial,fun a ha => ?_⟩
    have ha : a = verdict := ha rfl
    cases a with
    | none => exact View.Leads.ret ha.symm
    | some code => exact View.Leads.error
  refine hplan.bind fun _ _ hv => ?_
  have hconsume : ∀ run' : RunRecord, Published run.id preview run' → (gate run.id preview verdict).Leads (do
      commit run'.id (.consumeConfirmation run'.state)
      ask (.run run'.id)) () fun run'' _ =>
        Published run.id preview run'' ∧ (preview run.id).executable ∧ verdict = none := fun run' hrun' =>
    gate_after (plain_commit rfl) fun _ => gate_run.mono fun run'' _ hrun'' => ⟨hrun'.1 ▸ hrun'',he,hv⟩
  unfold consumeConfirmation
  split
  · exact gate_after (plain_commit rfl) fun _ => gate_run.bind fun run' _ hrun' => hconsume run' hrun'
  · exact hconsume run ⟨rfl,hpreview⟩

/-- An apply comes to the boundary only of its own Run and with every gate behind it. -/
theorem gate_apply (request : RequestId) : (gate r preview verdict).Leads (apply request r) s fun _ _ => True := by
  unfold apply
  refine gate_run.bind fun run _ _ => gate_after (plain_of_reads (requireExecutor_reads _)) fun _ => ?_
  have hacquire : (gate r preview verdict).Leads (acquire r) () fun run _ => Published r preview run := by
    refine ⟨trivial,fun a ha run hrun => ?_⟩
    exact ha run hrun
  refine hacquire.bind fun run _ hrun => ?_
  have hgates : (gate r preview verdict).Leads (refusingApply r (gates run)) () fun run' _ =>
      Published r preview run' ∧ (preview r).executable ∧ verdict = none := by
    refine View.Leads.handle (gate_gates hrun) fun e _ => ?_
    cases e with
    | refused code => exact gate_after (plain_commit rfl) fun _ => View.Leads.error
    | integrity => exact View.Leads.error
    | assertion => exact View.Leads.error
  refine hgates.bind fun run' _ hpassed => ?_
  obtain ⟨⟨hid,_⟩,he,hv⟩ := hpassed
  refine gate_after (prepare_plain _) fun prepared => ?_
  obtain ⟨checkpoint,correlation⟩ := prepared
  have hrest : (gate r preview verdict).Leads (do
      let change ← cross run' correlation
      let run ← ask (.run r)
      let report ← dispatch run change
      let change ← settle run report
      let run ← ask (.run r)
      conclude request run change checkpoint report) () fun _ _ => True := by
    have hcross : (gate r preview verdict).Leads (cross run' correlation) () fun _ _ => True := by
      refine ⟨⟨hid,he,hv⟩,fun a _ => ?_⟩
      cases a with
      | error e => exact View.Leads.error
      | ok _ => exact gate_plain (plain_of_reads (requireChange_reads _))
    refine hcross.bind fun change _ _ => gate_run.bind fun run'' _ _ => ?_
    refine gate_after ((plain_commit rfl).bind fun _ => ⟨trivial,fun _ => trivial⟩) fun report => ?_
    refine gate_after ((plain_commit rfl).bind fun _ => plain_of_reads (requireChange_reads _)) fun change' => ?_
    exact gate_run.bind fun run₃ _ _ => gate_plain (conclude_plain ..)
  show (gate r preview verdict).Leads (if _ then _ else _) () _
  split
  · exact gate_after (armGuard_plain _ _) fun _ => hrest
  · exact hrest

end Service
namespace World

variable {q : Request} {w w' : World} {i : RequestId}

theorem enter_received (h : enter q w = some (i,w')) :
    i = w.requests.length ∧ w'.requests = w.requests ++ [q] ∧ w'.files = w.files := by
  unfold enter at h
  split at h
  · split at h
    · cases h; exact ⟨rfl,rfl,rfl⟩
    · cases h
  · split at h
    · cases h; exact ⟨rfl,rfl,rfl⟩
    · cases h

end World

/-- An apply of Run `r` is watched through its gates, whatever else is going on. -/
def Site.watch (site : Site) (i : RequestId) (r : RunId) (preview : RunId → Preview) :
    Watch site.gated i (gate r preview (planNow (preview r) (site.context i r) (site.stale i r))) where
  watched (w : World) := w.requests[i]? = some (.apply r) ∧ ∀ r', (w.files r').preview = preview r'
  entered := by
    rintro (q : Request) (w : World) (w' : World) (he : World.enter q w = some (i,w')) ⟨hasked,_⟩
    obtain ⟨rfl,hreceived,_⟩ := World.enter_received he
    rw [hreceived,List.getElem?_concat_length] at hasked
    obtain rfl := Option.some.inj hasked
    exact ⟨(),View.Safe.mono (fun _ _ _ => trivial) (Service.gate_apply _)⟩
  before := by
    rintro (q : Request) (w : World) (w' : World) j (he : World.enter q w = some (j,w')) hij ⟨hasked,hpreview⟩
    obtain ⟨rfl,hreceived,hfiles⟩ := World.enter_received he
    have hlt : i < w.requests.length := by
      have hlen := (List.getElem?_eq_some_iff.mp hasked).1
      rw [hreceived,List.length_append,List.length_singleton] at hlen
      exact lt_of_le_of_ne (Nat.lt_succ_iff.mp hlen) hij
    rw [hreceived,List.getElem?_append_left hlt] at hasked
    exact ⟨hasked,fun r' => by rw [← hpreview r',hfiles]⟩
  performed := by
    rintro j op out (w : World) ⟨hasked,hpreview⟩
    refine ⟨?_,fun r' => (World.perform_frame op out w r').2.2.symm.trans (hpreview r')⟩
    exact World.perform_requests j op out w ▸ hasked
  outside := by
    rintro e (w : World) (w' : World) (he : World.outer e w = some w') ⟨hasked,hpreview⟩
    have hheard := World.outer_heard he
    refine ⟨hheard.requests ▸ hasked,fun r' => ?_⟩
    obtain ⟨new,hn,_⟩ := hheard.rows r'
    exact (congrArg Rows.preview hn).symm.trans (hpreview r')
  answers := by
    rintro op out (w : World) s ⟨hasked,hpreview⟩ (hR : site.Answers i op out w)
    cases op with
    | run r' => exact ⟨rfl,hpreview r'⟩
    | acquire r' =>
      intro run hrun
      have hrun : (World.acquire w r').1 = .ok run := hrun
      have hrecord : run = w.record r' := by
        unfold World.acquire at hrun
        split at hrun
        · split at hrun
          · exact (Except.ok.inj hrun).symm
          · split at hrun
            · exact (Except.ok.inj hrun).symm
            · cases hrun
        · cases hrun
      exact hrecord ▸ ⟨rfl,hpreview r'⟩
    | replan r' =>
      rintro rfl
      exact (hR r' rfl hasked).trans (by rw [hpreview r'])
    | _ => trivial

/-- An apply that comes to the write boundary comes to the boundary of its own Run, with the fresh plan of
its own request as published, and for an interface either proven off that request's path or proven on it
with its guard recorded armed. -/
theorem crossing_admitted {site : Site} {c : engine.Config} (hc : Reach site.gated c) {i : RequestId} {r r' : RunId}
    (hr : (World.requests c.world)[i]? = some (.apply r)) {seen : RunState} {correlation : Correlation}
    {next : Except Error Unit → Service Response} (hp : c.pool i = some (.act (.commit r' (.cross seen correlation)) next)) :
    r' = r ∧ site.Admits i r (World.files c.world r).rows := by
  obtain ⟨s,hfits,_⟩ := (site.watch i r fun r' => (World.files c.world r').preview).safe hc ⟨hr,fun _ => rfl⟩ hp
  obtain ⟨rfl,he,hv⟩ := hfits
  obtain ⟨hI,hpool⟩ := protocol_sound.holds hc.free
  obtain ⟨hlicence,_⟩ := hpool i _ hp _ (protocol_lawful.refl i _) hI
  obtain ⟨plan,hplan,_,_,heligible⟩ := planNow_none.mp hv
  refine ⟨rfl,{ interface := fun ho => ?_, replanned := ⟨plan,hplan,heligible.trans (permitted_executable he)⟩ }⟩
  have hpasses := interface_passes ((site.sameOperation i r').trans ho) he hv
  rw [site.sameTarget] at hpasses
  refine hpasses.imp id fun hguarded => ⟨hguarded.1,hguarded.2,?_⟩
  have hisGuarded : (World.files c.world r').rows.preview.isGuarded := decide_eq_true hguarded.1
  obtain ⟨g,hg,harmed,_⟩ := hlicence.2.2.1.2 hisGuarded
  exact ⟨g,hg,harmed⟩

/-- The path of every request ends on the interface in question, and its agent can do what it has to. -/
def onThePath : PlanningContext where
  operation := .networkInterfaceReconcileMtu
  resourceId := "eth0"
  refusal := none
  evidenceSources := ["network.interface.set_mtu","network.interface.mtu_guard"]
  ownershipBlockReason := none
  ownershipGaps := []
  managementPath := ⟨some "eth0","kernel_route",some "1",none,[]⟩
  lifecycle := none
  selfImpact _ _ := ⟨"backend",.notDetected,.none,false,"",none,none,[]⟩

def sameConsole : Site where
  operation _ := .networkInterfaceReconcileMtu
  resource _ := "eth0"
  context _ _ := onThePath
  stale _ _ := false
  sameOperation _ _ := rfl
  sameTarget _ _ := rfl

deriving instance DecidableEq for Verdict
deriving instance DecidableEq for Request

instance Site.decidable (site : Site) (i : RequestId) (op : Op) (out : Outside) (w : World) : Decidable (site.Answers i op out w) :=
  inferInstanceAs (Decidable (∀ r ∈ op.replanned, _))

instance (site : Site) (i : ℕ) (op : engine.sig.Op) (a : engine.Outside) (w : engine.World) :
    Decidable (site.gated.step i op a w) := site.decidable i op a w

instance (site : Site) (e : engine.External) (w : engine.World) : Decidable (site.gated.outer e w) := .isTrue trivial

instance (site : Site) (w : engine.World) : Decidable (site.gated.crash w) := .isTrue trivial

/-- What is left of a program begins at the write boundary. -/
def atBoundary : Option (Service Response) → Bool
  | some (.act (.commit _ c) _) => c.crosses
  | _ => false

theorem exists_of_atBoundary {p : Option (Service Response)} (h : atBoundary p = true) :
    ∃ r seen correlation next, p = some (.act (.commit r (.cross seen correlation)) next) := by
  unfold atBoundary at h
  split at h
  · next r c next =>
    cases c with
    | cross seen correlation => exact ⟨r,seen,correlation,next,rfl⟩
    | _ => cases h
  · cases h

/-- A guarded apply over the very path it changes comes to the boundary with its guard armed. -/
theorem crossing_admitted_on_path : ∃ c : engine.Config, atBoundary (c.pool 2) = true ∧
    sameConsole.Admits 2 0 (World.files c.world 0).rows := by
  obtain ⟨c,hc,hp⟩ := exists_of_playUnder sameConsole.gated guardedWorld_initial
    (started ++ .enter (.confirm 0 none true (some "") "") :: advance 1 4 ++ .enter (.apply 0) :: advance 2 15)
    (fun c => decide ((World.requests c.world)[2]? = some (Request.apply 0)) && atBoundary (c.pool 2)) (by decide +kernel)
  simp only [Bool.and_eq_true,decide_eq_true_eq] at hp
  obtain ⟨r,seen,correlation,next,hnext⟩ := exists_of_atBoundary hp.2
  exact ⟨c,hp.2,(crossing_admitted hc hp.1 hnext).2⟩

end LocalPlane
