import LocalPlane.CanonicalPlan
import Mathlib.Data.List.Dedup

/-!
# What a digest forgets about order

Two plans that say the same with their evidence listed in another order. The digest
forgets that order exactly when no two records share the key their section is sorted
by and the effect edges inside the protection evidence, which nothing sorts, leave
nothing to tell apart.
-/

set_option linter.dupNamespace false

namespace LocalPlane
namespace Planning

open LineProtocol (Json Fields)

/-! The same evidence in another order -/

/-- The producers of protection evidence sort the names they list and leave the edges as observed. -/
def Fields.Reordered : Fields → Fields → Prop :=
  List.Forall₂ fun f f' => f'.1 = f.1 ∧
    (f'.2 = f.2 ∨ f.1 = "effect_edges" ∧ ∃ l l', f.2 = .arr l ∧ f'.2 = .arr l' ∧ l'.Perm l)

structure ReasonAssessment.Reordered (e e' : ReasonAssessment) : Prop where
  evidence : Fields.Reordered e.evidence e'.evidence
  missingEvidence : e'.missingEvidence.Perm e.missingEvidence
  rest : e' = { e with evidence := e'.evidence, missingEvidence := e'.missingEvidence }

structure OwnershipAssessment.Reordered (o o' : OwnershipAssessment) : Prop where
  claims : o'.claims.Perm o.claims
  gaps : o'.gaps.Perm o.gaps
  rest : o' = { o with claims := o'.claims, gaps := o'.gaps }

structure ProtectionAssessment.Reordered (p p' : ProtectionAssessment) : Prop where
  reasons : p'.reasons.Perm p.reasons
  unresolved : p'.unresolved.Perm p.unresolved
  assessed : ∃ mid, List.Forall₂ ReasonAssessment.Reordered p.assessed mid ∧ p'.assessed.Perm mid
  missingEvidence : p'.missingEvidence.Perm p.missingEvidence
  rest : p' = { p with
    reasons := p'.reasons, unresolved := p'.unresolved, assessed := p'.assessed
    missingEvidence := p'.missingEvidence }

structure RiskAssessment.Reordered (r r' : RiskAssessment) : Prop where
  factors : r'.factors.Perm r.factors
  rest : r' = { r with factors := r'.factors }

structure ConfirmationRequirement.Reordered (c c' : ConfirmationRequirement) : Prop where
  reasons : c'.reasons.Perm c.reasons
  rest : c' = { c with reasons := c'.reasons }

structure ExecutionAssessment.Reordered (e e' : ExecutionAssessment) : Prop where
  blockers : e'.blockers.Perm e.blockers
  rest : e' = { e with blockers := e'.blockers }

structure GuardPlan.Reordered (g g' : GuardPlan) : Prop where
  prerequisites : g'.prerequisites.Perm g.prerequisites
  unmet : g'.unmet.Perm g.unmet
  rest : g' = { g with prerequisites := g'.prerequisites, unmet := g'.unmet }

structure SystemdLifecycleContext.Reordered (c c' : SystemdLifecycleContext) : Prop where
  effectUnits : c'.effectUnits.Perm c.effectUnits
  effectEdges : c'.effectEdges.Perm c.effectEdges
  activeActivationSources : c'.activeActivationSources.Perm c.activeActivationSources
  activeUpholdingSources : c'.activeUpholdingSources.Perm c.activeUpholdingSources
  managementUnits : c'.managementUnits.Perm c.managementUnits
  gaps : c'.gaps.Perm c.gaps
  rest : c' = { c with
    effectUnits := c'.effectUnits, effectEdges := c'.effectEdges
    activeActivationSources := c'.activeActivationSources
    activeUpholdingSources := c'.activeUpholdingSources
    managementUnits := c'.managementUnits, gaps := c'.gaps }

structure BackendSelfImpactAssessment.Reordered (s s' : BackendSelfImpactAssessment) : Prop where
  reasons : s'.reasons.Perm s.reasons
  rest : s' = { s with reasons := s'.reasons }

structure RunPlan.Reordered (p q : RunPlan) : Prop where
  ownership : p.ownership.Reordered q.ownership
  protection : p.protection.Reordered q.protection
  risk : p.risk.Reordered q.risk
  confirmation : p.confirmation.Reordered q.confirmation
  execution : p.execution.Reordered q.execution
  guard : p.guard.Reordered q.guard
  lifecycleContext : Option.Rel SystemdLifecycleContext.Reordered p.lifecycleContext q.lifecycleContext
  selfImpact : Option.Rel BackendSelfImpactAssessment.Reordered p.selfImpact q.selfImpact
  rest : q = { p with
    ownership := q.ownership, protection := q.protection, risk := q.risk, confirmation := q.confirmation
    execution := q.execution, guard := q.guard, lifecycleContext := q.lifecycleContext
    selfImpact := q.selfImpact }

/-- No two records one key cannot tell apart, and nothing to tell apart among unsorted edges. -/
structure RunPlan.OrderFree (p : RunPlan) : Prop where
  claims : ∀ a ∈ p.ownership.claims, ∀ b ∈ p.ownership.claims, a.key = b.key → a = b
  factors : ∀ a ∈ p.risk.factors, ∀ b ∈ p.risk.factors, a.code = b.code → a.floor = b.floor
  edges : ∀ e ∈ p.protection.assessed, ∀ l, ("effect_edges",Json.arr l) ∈ e.evidence →
    ∀ x ∈ l, ∀ y ∈ l, x = y
  assessed : ∀ a ∈ p.protection.assessed, ∀ b ∈ p.protection.assessed, a.reason = b.reason →
    a.canonical = b.canonical

/-! Canonical forms -/

theorem names_reordered {l l' : List String} (h : l'.Perm l) : Json.names l' = Json.names l := by
  rw [Json.names,Json.names,sorted_perm h]

theorem spellings_reordered {α : Type} [Spelled α] {l l' : List α} (h : l'.Perm l) :
    Json.spellings l' = Json.spellings l := names_reordered (h.map _)

theorem keyed_free {α κ : Type} [LinearOrder κ] {key : α → κ} {value : α → Json} {l : List α} :
    (∀ l', l'.Perm l → Json.keyed key value l' = Json.keyed key value l) ↔
      ∀ a ∈ l, ∀ b ∈ l, key a = key b → value a = value b := by
  rw [← sortedValues_free]
  simp only [Json.keyed,Json.arr.injEq]

theorem claim_canonical_injective {a b : PublishedClaim} (h : a.canonical = b.canonical) : a = b := by
  have hoptional {s t : Option String} (hst : Json.optional s = Json.optional t) : s = t := by
    cases s <;> cases t <;> simp_all [Json.optional]
  cases a
  cases b
  simp only [PublishedClaim.canonical,Json.obj.injEq,List.cons.injEq,Prod.mk.injEq,Json.str.injEq,
    Json.bool.injEq,true_and,and_true] at h
  obtain ⟨rfl,rfl,hi,hl,rfl,rfl⟩ := h
  rw [hoptional hi,hoptional hl]


/-! What each section forgets -/

theorem ownership_free {o : OwnershipAssessment} :
    (∀ o', o.Reordered o' → o'.canonical = o.canonical) ↔
      ∀ a ∈ o.claims, ∀ b ∈ o.claims, a.key = b.key → a = b := by
  constructor
  · intro h a ha b hb hk
    refine claim_canonical_injective (keyed_free.mp (fun claims hclaims => ?_) a ha b hb hk)
    have ho := h { o with claims } ⟨hclaims,.refl _,rfl⟩
    simpa [OwnershipAssessment.canonical] using ho
  · intro h o' ho
    have hclaims := keyed_free.mpr (fun a ha b hb hk => congrArg PublishedClaim.canonical (h a ha b hb hk)) _ ho.claims
    rw [ho.rest]
    simp only [OwnershipAssessment.canonical,hclaims,names_reordered ho.gaps]

theorem risk_free {r : RiskAssessment} :
    (∀ r', r.Reordered r' → r'.canonical = r.canonical) ↔
      ∀ a ∈ r.factors, ∀ b ∈ r.factors, a.code = b.code → a.floor = b.floor := by
  constructor
  · intro h a ha b hb hk
    have hab : a.canonical = b.canonical := by
      refine keyed_free.mp (fun factors hfactors => ?_) a ha b hb hk
      have hr := h { r with factors } ⟨hfactors,rfl⟩
      simpa [RiskAssessment.canonical] using hr
    have hcode : Spelled.code a.floor = Spelled.code b.floor := by
      simpa [RiskFactor.canonical,Json.spelled,hk] using hab
    exact Spelled.apart _ _ hcode
  · intro h r' hr
    have hfactors : Json.keyed RiskFactor.code RiskFactor.canonical r'.factors =
        Json.keyed RiskFactor.code RiskFactor.canonical r.factors :=
      keyed_free.mpr (fun a ha b hb hk => by rw [RiskFactor.canonical,RiskFactor.canonical,hk,h a ha b hb hk]) _ hr.factors
    rw [hr.rest]
    simp only [RiskAssessment.canonical,hfactors]

theorem confirmation_reordered {c c' : ConfirmationRequirement} (h : c.Reordered c') :
    c'.canonical = c.canonical := by
  rw [h.rest]
  simp only [ConfirmationRequirement.canonical,names_reordered h.reasons]

theorem execution_reordered {e e' : ExecutionAssessment} (h : e.Reordered e') : e'.canonical = e.canonical := by
  rw [h.rest]
  simp only [ExecutionAssessment.canonical,names_reordered h.blockers]

theorem guard_reordered {g g' : GuardPlan} (h : g.Reordered g') : g'.canonical = g.canonical := by
  rw [h.rest]
  simp only [GuardPlan.canonical,spellings_reordered h.prerequisites,spellings_reordered h.unmet]

/-- The key edges are sorted by is the whole edge. -/
theorem edges_reordered {l l' : List EffectEdge} (h : l'.Perm l) :
    Json.keyed EffectEdge.key EffectEdge.asDict l' = Json.keyed EffectEdge.key EffectEdge.asDict l := by
  refine keyed_free.mpr (fun a _ b _ hk => ?_) _ h
  simp only [EffectEdge.key,EmbeddingLike.apply_eq_iff_eq,Prod.mk.injEq] at hk
  rw [EffectEdge.asDict,EffectEdge.asDict,hk.1,hk.2.1,hk.2.2]

theorem context_reordered {c c' : SystemdLifecycleContext} (h : c.Reordered c') (version : ℕ) :
    c'.canonical version = c.canonical version := by
  rw [h.rest]
  simp only [SystemdLifecycleContext.canonical,SystemdLifecycleContext.applicabilityFacts,
    SystemdLifecycleContext.service,names_reordered h.effectUnits,edges_reordered h.effectEdges,
    names_reordered h.activeActivationSources,names_reordered h.activeUpholdingSources,
    names_reordered h.managementUnits,names_reordered h.gaps]

theorem selfImpact_reordered {s s' : BackendSelfImpactAssessment} (h : s.Reordered s') :
    s'.canonical = s.canonical := by
  rw [h.rest]
  simp only [BackendSelfImpactAssessment.canonical,BackendSelfImpactAssessment.dict,names_reordered h.reasons]

/-! Protection -/

theorem evidence_reordered {e e' : Fields} (h : Fields.Reordered e e')
    (hedges : ∀ l, ("effect_edges",Json.arr l) ∈ e → ∀ x ∈ l, ∀ y ∈ l, x = y) : e' = e := by
  induction h with
  | nil => rfl
  | @cons f f' e e' hf _ ih =>
    rw [ih fun l hl => hedges l (.tail _ hl)]
    obtain ⟨hkey,hv | ⟨hk,l,l',hl,hl',hperm⟩⟩ := hf
    · rw [Prod.ext hkey hv]
    · have hsame := hedges l (by rw [← hl,← hk]; exact .head _)
      have hany (l : List Json) : l.Pairwise fun _ _ => True := List.pairwise_of_forall fun _ _ => trivial
      have hll : l' = l := List.Perm.eq_of_pairwise (fun a b ha hb _ _ => hsame a (hperm.mem_iff.mp ha) b hb)
        (hany l') (hany l) hperm
      rw [Prod.ext hkey (hl'.trans (hll ▸ hl.symm))]

theorem reason_reordered {e e' : ReasonAssessment} (h : e.Reordered e')
    (hedges : ∀ l, ("effect_edges",Json.arr l) ∈ e.evidence → ∀ x ∈ l, ∀ y ∈ l, x = y) :
    e'.canonical = e.canonical ∧ e'.reason = e.reason := by
  rw [h.rest]
  simp only [ReasonAssessment.canonical,names_reordered h.missingEvidence,evidence_reordered h.evidence hedges,
    and_self]

theorem reasons_refl (l : List ReasonAssessment) : List.Forall₂ ReasonAssessment.Reordered l l :=
  List.forall₂_same.mpr fun _ _ => ⟨List.forall₂_same.mpr fun _ _ => ⟨rfl,.inl rfl⟩,.refl _,rfl⟩

theorem assessed_reordered {l mid : List ReasonAssessment} (h : List.Forall₂ ReasonAssessment.Reordered l mid)
    (hedges : ∀ e ∈ l, ∀ es, ("effect_edges",Json.arr es) ∈ e.evidence → ∀ x ∈ es, ∀ y ∈ es, x = y) :
    mid.map (fun e => (e.reason,e.canonical)) = l.map fun e => (e.reason,e.canonical) := by
  induction h with
  | nil => rfl
  | @cons e e' l mid he _ ih =>
    obtain ⟨hc,hr⟩ := reason_reordered he (hedges e (.head _))
    simp only [List.map_cons,hc,hr,ih fun e he => hedges e (.tail _ he)]

/-- One entry may list its edges with any of them first. -/
theorem reason_rotated {e : ReasonAssessment} {before after : Fields} {l l' : List Json} (hl : l'.Perm l)
    (he : e.evidence = before ++ ("effect_edges",Json.arr l) :: after) :
    e.Reordered { e with evidence := before ++ ("effect_edges",Json.arr l') :: after } := by
  refine ⟨?_,.refl _,rfl⟩
  have hsame (fields : Fields) : Fields.Reordered fields fields := List.forall₂_same.mpr fun _ _ => ⟨rfl,.inl rfl⟩
  rw [he]
  exact List.rel_append (hsame before) (.cons ⟨rfl,.inr ⟨rfl,l,l',rfl,rfl,hl⟩⟩ (hsame after))

/-- What one entry says stays when the rest of the section does. -/
theorem canonical_of_keyed {before after : List ReasonAssessment} {e e' : ReasonAssessment}
    (h : Json.keyed (fun e => Spelled.code e.reason) ReasonAssessment.canonical (before ++ e' :: after) =
      Json.keyed (fun e => Spelled.code e.reason) ReasonAssessment.canonical (before ++ e :: after)) :
    e'.canonical = e.canonical := by
  simp only [Json.keyed,Json.arr.injEq] at h
  have hperm := (sortedValues_perm _ _ _).symm.trans (h ▸ sortedValues_perm _ _ (before ++ e :: after))
  simp only [List.map_append,List.map_cons] at hperm
  have hone : ([e'.canonical] ++ after.map ReasonAssessment.canonical).Perm
      ([e.canonical] ++ after.map ReasonAssessment.canonical) := (List.perm_append_left_iff _).mp hperm
  exact List.singleton_perm_singleton.mp ((List.perm_append_right_iff _).mp hone)

theorem protection_free {p : ProtectionAssessment} {version : ℕ} (hv : 4 ≤ version) :
    (∀ p', p.Reordered p' → p'.canonical version = p.canonical version) ↔
      (∀ e ∈ p.assessed, ∀ l, ("effect_edges",Json.arr l) ∈ e.evidence → ∀ x ∈ l, ∀ y ∈ l, x = y) ∧
        ∀ a ∈ p.assessed, ∀ b ∈ p.assessed, a.reason = b.reason → a.canonical = b.canonical := by
  classical
  have hv2 : 2 ≤ version := by omega
  constructor
  · intro h
    have hkeyed (assessed : List ReasonAssessment) (mid : List ReasonAssessment)
        (hmid : List.Forall₂ ReasonAssessment.Reordered p.assessed mid) (hperm : assessed.Perm mid) :
        Json.keyed (fun e => Spelled.code e.reason) ReasonAssessment.canonical assessed =
          Json.keyed (fun e => Spelled.code e.reason) ReasonAssessment.canonical p.assessed := by
      have hp := h { p with assessed } ⟨.refl _,.refl _,⟨mid,hmid,hperm⟩,.refl _,rfl⟩
      simpa [ProtectionAssessment.canonical,hv,hv2] using hp
    constructor
    · intro e he l hl x hx y hy
      obtain ⟨before,after,hassessed⟩ := List.append_of_mem he
      obtain ⟨early,late,hevidence⟩ := List.append_of_mem hl
      have hfirst {z : Json} (hz : z ∈ l) : z :: l.erase z = l := by
        let moved := { e with evidence := early ++ ("effect_edges",Json.arr (z :: l.erase z)) :: late }
        have hmoved : e.Reordered moved := reason_rotated (List.perm_cons_erase hz).symm hevidence
        have hmid : List.Forall₂ ReasonAssessment.Reordered p.assessed (before ++ moved :: after) := by
          rw [hassessed]
          exact List.rel_append (reasons_refl before) (.cons hmoved (reasons_refl after))
        have hsame := hkeyed _ _ hmid (.refl _)
        rw [hassessed] at hsame
        simpa [moved,ReasonAssessment.canonical,hevidence] using canonical_of_keyed hsame
      exact (List.cons.inj ((hfirst hx).trans (hfirst hy).symm)).1
    · intro a ha b hb hk
      refine keyed_free.mp (fun l hl => hkeyed l p.assessed (reasons_refl _) hl) a ha b hb ?_
      rw [hk]
  · rintro ⟨hedges,hties⟩ p' hp
    obtain ⟨mid,hmid,hperm⟩ := hp.assessed
    have hmap := assessed_reordered hmid hedges
    have hsame : Json.keyed (fun e => Spelled.code e.reason) ReasonAssessment.canonical p'.assessed =
        Json.keyed (fun e => Spelled.code e.reason) ReasonAssessment.canonical p.assessed := by
      have hentries := congrArg (List.map fun e : ProtectionReason × Json => (Spelled.code e.1,e.2)) hmap
      simp only [List.map_map,Function.comp_def] at hentries
      rw [Json.keyed,Json.keyed,sortedValues_entries,sortedValues_entries _ _ p.assessed,← hentries]
      refine congrArg Json.arr (sortedValues_free.mpr (fun a ha b hb hk => ?_) _ (hperm.map _))
      rw [hentries] at ha hb
      obtain ⟨e,he,rfl⟩ := List.mem_map.mp ha
      obtain ⟨f,hf,rfl⟩ := List.mem_map.mp hb
      exact hties e he f hf (Spelled.apart _ _ hk)
    rw [hp.rest]
    simp only [ProtectionAssessment.canonical,names_reordered hp.missingEvidence,
      spellings_reordered hp.reasons,spellings_reordered hp.unresolved,hsame]

/-! What a lifecycle assessment makes of facts observed in another order -/

/-- What the roll-up reads of an entry. -/
def ReasonAssessment.outline (e : ReasonAssessment) : ProtectionReason × ProtectionStatus × String :=
  (e.reason,e.status,e.detail)

theorem outlines_reordered {l l' : List ReasonAssessment} (h : List.Forall₂ ReasonAssessment.Reordered l l') :
    l'.map (·.outline) = l.map (·.outline) := by
  induction h with
  | nil => rfl
  | cons he _ ih => rw [List.map_cons,List.map_cons,ih,he.rest]; rfl

theorem reasons_of_outlines (l : List ReasonAssessment) (status : ProtectionStatus) :
    (l.filter (·.status = status)).map (·.reason) = ((l.map (·.outline)).filter (·.2.1 = status)).map (·.1) := by
  rw [List.filter_map,List.map_map]
  rfl

theorem decisive_of_outlines (l : List ReasonAssessment) (status : ProtectionStatus) :
    (l.find? (·.status = status)).map (·.outline) = (l.map (·.outline)).find? (·.2.1 = status) := by
  rw [List.find?_map]
  rfl

theorem decisive_reordered {first first' : ReasonAssessment} {rest rest' : List ReasonAssessment}
    (h : List.Forall₂ ReasonAssessment.Reordered (first :: rest) (first' :: rest')) :
    decisive first' rest' = decisive first rest := by
  have houtlines := outlines_reordered h
  have hfirst : first'.detail = first.detail := by
    simp only [List.map_cons,List.cons.injEq,ReasonAssessment.outline,Prod.mk.injEq] at houtlines
    exact houtlines.1.2.2
  have hdetail (status : ProtectionStatus) : ((first' :: rest').find? (·.status = status)).map (·.detail) =
      ((first :: rest).find? (·.status = status)).map (·.detail) := by
    have hfound := congrArg (Option.map fun o : ProtectionReason × ProtectionStatus × String => o.2.2)
      ((decisive_of_outlines (first' :: rest') status).trans
        (houtlines ▸ (decisive_of_outlines (first :: rest) status).symm))
    simpa [Option.map_map,Function.comp_def,ReasonAssessment.outline] using hfound
  have hp := hdetail .isProtected
  have hu := hdetail .unknown
  unfold decisive
  cases hf : (first :: rest).find? (·.status = .isProtected) with
  | some e =>
    rw [hf] at hp
    obtain ⟨e',hf',he⟩ := Option.map_eq_some_iff.mp hp
    simp only [hf',he]
  | none =>
    rw [hf] at hp
    simp only [Option.map_eq_none_iff.mp hp]
    cases hg : (first :: rest).find? (·.status = .unknown) with
    | some e =>
      rw [hg] at hu
      obtain ⟨e',hg',he⟩ := Option.map_eq_some_iff.mp hu
      simp only [hg',he]
    | none =>
      rw [hg] at hu
      simp only [Option.map_eq_none_iff.mp hu,hfirst]

theorem rollUp_reordered {first first' : ReasonAssessment} {rest rest' : List ReasonAssessment}
    {managementPath : ManagementPathRelation} {missing missing' : List String}
    (h : List.Forall₂ ReasonAssessment.Reordered (first :: rest) (first' :: rest')) (hm : missing'.Perm missing) :
    (rollUpProtection first rest managementPath missing).Reordered
      (rollUpProtection first' rest' managementPath missing') := by
  have hreasons (status : ProtectionStatus) : ((first' :: rest').filter (·.status = status)).map (·.reason) =
      ((first :: rest).filter (·.status = status)).map (·.reason) := by
    rw [reasons_of_outlines,reasons_of_outlines,outlines_reordered h]
  refine ⟨.of_eq (hreasons _),.of_eq (hreasons _),⟨_,h,.refl _⟩,hm,?_⟩
  simp only [rollUpProtection,decisive_reordered h]

namespace SystemdLifecycleContext

variable {c c' : SystemdLifecycleContext}

theorem intersection_reordered (h : c.Reordered c') : c'.managementIntersection = c.managementIntersection := by
  have hunits : (c'.effectUnits.filter (· ∈ c'.managementUnits)).Perm (c.effectUnits.filter (· ∈ c.managementUnits)) := by
    simp only [h.managementUnits.mem_iff]
    exact h.effectUnits.filter _
  exact sorted_perm hunits.dedup

theorem missing_reordered (h : c.Reordered c') (status : ProtectionStatus) (fallback : String) :
    c'.missingFor status fallback = c.missingFor status fallback := by
  have hnil : c'.gaps = [] ↔ c.gaps = [] := by
    constructor <;> intro hg <;> simpa [hg] using h.gaps
  unfold missingFor
  split
  · rfl
  · by_cases hg : c.gaps = []
    · rw [if_pos hg,if_pos (hnil.mpr hg)]
    · rw [if_neg hg,if_neg (mt hnil.mp hg),sorted_perm h.gaps]

theorem managementStatus_reordered (h : c.Reordered c') : c'.managementStatus = c.managementStatus := by
  simp only [managementStatus,intersection_reordered h]
  rw [h.rest]

theorem agentStatus_reordered (h : c.Reordered c') : c'.agentStatus = c.agentStatus := by
  simp only [agentStatus,agentReached,h.effectUnits.mem_iff]
  rw [h.rest]
  rfl

theorem evidenceCommon_reordered (h : c.Reordered c') : Fields.Reordered c.evidenceCommon c'.evidenceCommon := by
  have htarget : c'.targetUnit = c.targetUnit ∧ c'.action = c.action ∧ c'.effectComplete = c.effectComplete := by
    rw [h.rest]
    exact ⟨rfl,rfl,rfl⟩
  rw [evidenceCommon,evidenceCommon,sorted_perm h.effectUnits,sorted_perm h.gaps,htarget.1,htarget.2.1,htarget.2.2]
  refine .cons ⟨rfl,.inl rfl⟩ (.cons ⟨rfl,.inl rfl⟩ (.cons ⟨rfl,.inl rfl⟩ (.cons ⟨rfl,.inr ?_⟩
    (.cons ⟨rfl,.inl rfl⟩ (.cons ⟨rfl,.inl rfl⟩ .nil)))))
  exact ⟨rfl,_,_,rfl,rfl,h.effectEdges.map _⟩

theorem managementReason_reordered (h : c.Reordered c') : c.managementReason.Reordered c'.managementReason := by
  have hrest : c'.observationId = c.observationId ∧ c'.observedAt = c.observedAt ∧
      c'.managementComplete = c.managementComplete := by
    rw [h.rest]
    exact ⟨rfl,rfl,rfl⟩
  refine ⟨?_,?_,?_⟩
  · refine List.rel_append (evidenceCommon_reordered h) ?_
    rw [sorted_perm h.managementUnits,intersection_reordered h,hrest.2.2]
    exact .cons ⟨rfl,.inl rfl⟩ (.cons ⟨rfl,.inl rfl⟩ (.cons ⟨rfl,.inl rfl⟩ .nil))
  · simp only [managementReason,managementStatus_reordered h,missing_reordered h,List.Perm.refl]
  · simp only [managementReason,managementStatus_reordered h,hrest.1,hrest.2.1]

theorem agentReason_reordered (h : c.Reordered c') : c.agentReason.Reordered c'.agentReason := by
  have hrest : c'.observationId = c.observationId ∧ c'.observedAt = c.observedAt ∧
      c'.agentUnit = c.agentUnit ∧ c'.agentComplete = c.agentComplete := by
    rw [h.rest]
    exact ⟨rfl,rfl,rfl,rfl⟩
  refine ⟨?_,?_,?_⟩
  · refine List.rel_append (evidenceCommon_reordered h) ?_
    rw [hrest.2.2.1,hrest.2.2.2]
    exact .cons ⟨rfl,.inl rfl⟩ (.cons ⟨rfl,.inl rfl⟩ .nil)
  · simp only [agentReason,agentStatus_reordered h,missing_reordered h,List.Perm.refl]
  · simp only [agentReason,agentStatus_reordered h,hrest.1,hrest.2.1]

end SystemdLifecycleContext

/-- The assessment of facts observed in another order lists the same evidence in another order. -/
theorem assessLifecycle_reordered {c c' : SystemdLifecycleContext} (h : c.Reordered c') :
    (assessLifecycleProtection c).Reordered (assessLifecycleProtection c') := by
  have hmanagement := SystemdLifecycleContext.managementReason_reordered h
  have hagent := SystemdLifecycleContext.agentReason_reordered h
  exact rollUp_reordered (.cons hmanagement (.cons hagent .nil))
    (.of_eq (sorted_perm (hmanagement.missingEvidence.append hagent.missingEvidence).dedup))

/-! The whole plan -/

theorem context_option {c c' : Option SystemdLifecycleContext} (h : Option.Rel SystemdLifecycleContext.Reordered c c')
    (version : ℕ) : c'.elim Json.null (·.canonical version) = c.elim Json.null (·.canonical version) := by
  cases h with
  | some hc => exact context_reordered hc version
  | none => rfl

theorem selfImpact_option {s s' : Option BackendSelfImpactAssessment}
    (h : Option.Rel BackendSelfImpactAssessment.Reordered s s') :
    s'.elim Json.null (·.canonical) = s.elim Json.null (·.canonical) := by
  cases h with
  | some hs => exact selfImpact_reordered hs
  | none => rfl

namespace RunPlan

theorem reordered_refl (p : RunPlan) : p.Reordered p where
  ownership := ⟨.refl _,.refl _,rfl⟩
  protection := ⟨.refl _,.refl _,⟨_,reasons_refl _,.refl _⟩,.refl _,rfl⟩
  risk := ⟨.refl _,rfl⟩
  confirmation := ⟨.refl _,rfl⟩
  execution := ⟨.refl _,rfl⟩
  guard := ⟨.refl _,.refl _,rfl⟩
  lifecycleContext := by
    cases p.lifecycleContext with
    | none => exact .none
    | some c => exact .some ⟨.refl _,.refl _,.refl _,.refl _,.refl _,.refl _,rfl⟩
  selfImpact := by
    cases p.selfImpact with
    | none => exact .none
    | some s => exact .some ⟨.refl _,rfl⟩
  rest := rfl

theorem canonical_reordered {p q : RunPlan} (hp : p.OrderFree) (h : p.Reordered q) :
    q.canonical planDigestVersion = p.canonical planDigestVersion := by
  have hownership := ownership_free.mpr hp.claims _ h.ownership
  have hprotection := (protection_free (show 4 ≤ planDigestVersion by decide)).mpr ⟨hp.edges,hp.assessed⟩ _ h.protection
  have hrisk := risk_free.mpr hp.factors _ h.risk
  rw [h.rest]
  simp only [canonical,hownership,hprotection,hrisk,confirmation_reordered h.confirmation,
    execution_reordered h.execution,guard_reordered h.guard,context_option h.lifecycleContext,
    selfImpact_option h.selfImpact]

/-- A plan every reordering of which is the same document has nothing its order could tell apart. -/
theorem orderFree_of_canonical {p : RunPlan}
    (h : ∀ q, p.Reordered q → q.canonical planDigestVersion = p.canonical planDigestVersion) : p.OrderFree := by
  have hself := p.reordered_refl
  have hownership := ownership_free.mp fun ownership ho => by
    have hq := h { p with ownership } { hself with ownership := ho, rest := rfl }
    simpa [canonical,planDigestVersion] using hq
  have hrisk := risk_free.mp fun risk hr => by
    have hq := h { p with risk } { hself with risk := hr, rest := rfl }
    simpa [canonical,planDigestVersion] using hq
  have hprotection := (protection_free (show 4 ≤ planDigestVersion by decide)).mp fun protection hp => by
    have hq := h { p with protection } { hself with protection := hp, rest := rfl }
    simpa [canonical,planDigestVersion] using hq
  exact ⟨hownership,hrisk,hprotection.1,hprotection.2⟩

/-- A service restart planned from one lifecycle reading, with nothing else to report. -/
def restartOf (context : SystemdLifecycleContext) : RunPlan where
  operation := .systemdServiceRestart
  hostId := "host-1"
  objectId := "object-1"
  change := .action "restart" "running" "running"
  evidence := { observationId := "obs-1", sweepId := "sweep-1", observedAt := "2026-01-01T00:00:00Z" }
  ownership := ⟨"unowned","no_claims",[],[],[]⟩
  protection := assessLifecycleProtection context
  risk := ⟨.medium,[⟨"service_restart",.medium,"the service is interrupted"⟩]⟩
  confirmation := ⟨true,.acknowledge,"operation",["service_restart"],"default",false,true,none⟩
  execution := ⟨.available,.eligible,[],some "systemd","systemd.lifecycle",true⟩
  guard := ⟨.unavailable,"operation_has_no_unattended_reversal",120,[],[],"none"⟩
  recovery := ⟨.operator,false,false,"none","no_inverse"⟩
  verification := ⟨false,"systemd.units","systemd","active"⟩
  authorization := none
  lifecycleContext := some context
  selfImpact := none

def observedEdges (edges : List EffectEdge) : SystemdLifecycleContext where
  status := "complete"
  observedAt := "2026-01-01T00:00:00Z"
  targetUnit := "web.service"
  action := .restart
  targetFacts := []
  effectUnits := ["web.service"]
  effectEdges := edges
  effectComplete := true
  activeActivationSources := []
  activeUpholdingSources := []
  managementUnits := ["ssh.service"]
  managementComplete := true
  connectionUnit := none
  connectionUnitType := none
  agentUnit := some "localplane-agent.service"
  agentComplete := true
  agentUnitType := some "service"
  gaps := []
  evidence := []
  runtimeOwner := none
  observationId := some "obs-1"

/-- The edge a document's protection evidence lists first. -/
def firstEdge (document : Fields) : Option String := do
  let .obj protection ← document.lookup "protection" | none
  let .arr (.obj entry :: _) ← protection.lookup "assessed" | none
  let .obj evidence ← entry.lookup "evidence" | none
  let .arr (.obj edge :: _) ← evidence.lookup "effect_edges" | none
  let .str relation ← edge.lookup "relation" | none
  return relation

theorem one_edge_orderFree (edge : EffectEdge) : (restartOf (observedEdges [edge])).OrderFree where
  claims a ha := absurd ha (by simp [restartOf])
  factors a ha b hb _ := by
    simp only [restartOf,List.mem_singleton] at ha hb
    rw [ha,hb]
  edges e he l hl x hx y hy := by
    have hlisted : l = [edge.asDict] := by
      rcases List.mem_pair.mp he with rfl | rfl <;>
        simpa [SystemdLifecycleContext.managementReason,SystemdLifecycleContext.agentReason,
          SystemdLifecycleContext.evidenceCommon,observedEdges] using hl
    rw [hlisted,List.mem_singleton] at hx hy
    rw [hx,hy]
  assessed a ha b hb hk := by
    rcases List.mem_pair.mp ha with rfl | rfl <;> rcases List.mem_pair.mp hb with rfl | rfl
    · rfl
    · simp [SystemdLifecycleContext.managementReason,SystemdLifecycleContext.agentReason] at hk
    · simp [SystemdLifecycleContext.managementReason,SystemdLifecycleContext.agentReason] at hk
    · rfl

end RunPlan
end Planning
end LocalPlane
