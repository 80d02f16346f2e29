import LocalPlane.DriftFindings

/-!
# What ends an ownership conflict

A conflict opens on a claim, is refreshed by claims and is closed by a sweep that brings
none, if the provider its finding names could be read. Whether that sweep settled anything
depends on every provider that had claimed the object since the conflict opened.
-/

set_option linter.dupNamespace false

namespace LocalPlane

open Store (ReportedReading Clock Wanted managedRow repointedRow observedRow)

namespace Conflicted

abbrev Key := ObjectId × OwnershipRelation

/-- The store, and the providers that have claimed each relation since its conflict opened. -/
structure State where
  store : Store
  provers : Key → List String

/-- What a sweep makes of the ownership of a managed object it saw, and the evidence it rests on. -/
def assessed (s : Store) (op : Operation) (id : ObjectId) : Option (Provenance × ProviderEvidence) :=
  match op with
  | .sweepNetwork sweep batch reported now =>
    match s.ingestNetwork sweep batch reported now with
    | .error _ => none
    | .ok s' =>
      if id ∈ batch.identified.map (·.1) then
        match s'.estate.get id with
        | none => none
        | some record =>
          if record.row.managementState = .managed then
            some (forObject record.row.kind record.observation (Store.providerRows reported []),Store.providerRows reported [])
          else none
      else none
  | _ => none

def claimants (s : Store) (op : Operation) (key : Key) : List String :=
  match assessed s op key.1 with
  | none => []
  | some (provenance,_) => (provenance.externalClaims key.2).map (·.provider)

def machine : Machine where
  State := State
  Act := Operation
  initial c := c = ⟨Store.empty,fun _ => []⟩
  step op c :=
    let s' := Managed.commit c.store op
    some ⟨s',fun key =>
      if (s'.conflicts.openForKey key).isNone then []
      else (if (c.store.conflicts.openForKey key).isSome then c.provers key else []) ++ claimants c.store op key⟩

def Settling (status : ProviderStatus) : Prop := status = .ok ∨ status = .absent

/-- The provider answered something that can be relied on. -/
def Usable (evidence : ProviderEvidence) (provider : String) : Prop :=
  ∃ reading ∈ evidence.get provider, Settling reading.status

/-- What the provider answered left no question open about the object. -/
def Gapless (provenance : Provenance) (provider : String) : Prop :=
  ∀ source ∈ provenance.sources, source.provider = provider → source.gap = false

/-- A conflict closed for want of a claim was closed by a sweep that settled it with every provider that had
claimed it, and only a claim that could be read proves it again. -/
def Earned (c : State) (op : Operation) : Prop :=
  ∀ key before after, c.store.conflicts.openForKey key = some before →
    after ∈ (Managed.commit c.store op).conflicts.rows → after.id = before.id →
      (after.resolution = some .ownerNoLongerClaims → ∃ provenance evidence,
        assessed c.store op key.1 = some (provenance,evidence) ∧
          ∀ provider ∈ c.provers key, Usable evidence provider ∧ Gapless provenance provider) ∧
      (after.evidence.lastSeenAt ≠ before.evidence.lastSeenAt → ∃ provenance evidence,
        assessed c.store op key.1 = some (provenance,evidence) ∧ ∃ claim ∈ provenance.externalClaims key.2,
          ∃ reading ∈ evidence.get claim.provider, reading.status = .ok)

/-- A sweep that brings no claim for an open conflict, while the provider named on it could be read: what that
provider said left no gap if it is installed, and every other claimant was read and left none. -/
def Conclusive (c : State) (op : Operation) : Prop :=
  ∀ finding ∈ c.store.conflicts.rows, finding.isOpen → ∀ x ∈ assessed c.store op finding.key.1,
    x.1.externalClaims finding.key.2 = [] → ∀ named ∈ x.2.get finding.evidence.ownerProvider, Settling named.status →
      (named.status = .ok → Gapless x.1 finding.evidence.ownerProvider) ∧
      ∀ provider ∈ c.provers finding.key, provider ≠ finding.evidence.ownerProvider → Usable x.2 provider ∧ Gapless x.1 provider

def ruled (c : State) (op : Operation) : Prop := Managed.ofNetwork ⟨c.store,[]⟩ op ∧ Conclusive c op

section Claims

variable {facts : LineProtocol.Fields} {evidence : ProviderEvidence} {c : Correlator} {provider : String}

theorem derive_provider : (c.derive facts evidence).2.provider = c.provider := by
  have hunusable : ∀ unusable, unusableSource c.provider c.source (evidence.get c.provider) = some unusable →
      unusable.provider = c.provider := by
    intro unusable hu
    unfold unusableSource at hu
    split at hu
    · cases hu
      rfl
    · split at hu <;> cases hu <;> rfl
  unfold Correlator.derive
  split
  · rfl
  · next unusable hu => exact hunusable _ hu
  · rfl

/-- A provider that is not installed leaves no question open. -/
theorem derive_absent {reading : ProviderReading} (hr : evidence.get c.provider = some reading) (ha : reading.status = .absent) :
    (c.derive facts evidence).2.gap = false := by
  have hsource : unusableSource c.provider c.source (some reading) =
      some ⟨reading.source,c.provider,reading.reason.getD "provider_absent",false⟩ := by
    simp only [unusableSource,ha]
  simp only [Correlator.derive,hr,hsource]

theorem derive_claims {claim : OwnershipClaim} (h : claim ∈ (c.derive facts evidence).1) :
    ∃ reading, evidence.get c.provider = some reading ∧ reading.status = .ok ∧ claim ∈ (c.correlate facts reading).1 := by
  unfold Correlator.derive at h
  split at h
  · next reading hu hr =>
    refine ⟨reading,hr,?_,h⟩
    rw [hr] at hu
    cases hs : reading.status with
    | ok => rfl
    | _ => simp [unusableSource,hs] at hu
  · cases h
  · cases h

theorem docker_provider {reading : ProviderReading} {claim : OwnershipClaim} (h : claim ∈ (dockerCorrelation facts reading).1) :
    claim.provider = docker := by
  have hclaims : ∀ network confidence reason, claim ∈ dockerClaims reading network confidence reason → claim.provider = docker :=
    fun network confidence reason hc => by
      rcases List.mem_pair.mp hc with rfl | rfl <;> rfl
  simp only [dockerCorrelation] at h
  repeat' split at h
  all_goals first | exact absurd h List.not_mem_nil | exact hclaims _ _ _ h

theorem networkmanager_provider {reading : ProviderReading} {claim : OwnershipClaim}
    (h : claim ∈ (networkmanagerCorrelation facts reading).1) : claim.provider = networkmanager := by
  simp only [networkmanagerCorrelation] at h
  repeat' split at h
  all_goals first | exact absurd h List.not_mem_nil | (rw [List.mem_singleton.mp h])

theorem tailscale_provider {reading : ProviderReading} {claim : OwnershipClaim}
    (h : claim ∈ (tailscaleCorrelation facts reading).1) : claim.provider = tailscale := by
  simp only [tailscaleCorrelation] at h
  repeat' split at h
  all_goals first | exact absurd h List.not_mem_nil | (rcases List.mem_pair.mp h with rfl | rfl <;> rfl)

/-- Each correlator claims in the name of its own provider. -/
theorem correlate_provider (hc : c ∈ correlators) {reading : ProviderReading} {claim : OwnershipClaim}
    (h : claim ∈ (c.correlate facts reading).1) : claim.provider = c.provider := by
  simp only [correlators,List.mem_cons,List.not_mem_nil,or_false] at hc
  rcases hc with rfl | rfl | rfl
  · exact docker_provider h
  · exact networkmanager_provider h
  · exact tailscale_provider h

theorem kernelClaims_internal {claim : OwnershipClaim} (h : claim ∈ (kernelClaims facts).1) : claim.provider = kernel := by
  simp only [kernelClaims] at h
  repeat' split at h
  all_goals first | exact absurd h List.not_mem_nil | (rw [List.mem_singleton.mp h])

/-- What competes with LocalPlane was read from its own provider in this sweep. -/
theorem external_read {claim : OwnershipClaim} {relation : OwnershipRelation}
    (h : claim ∈ (deriveProvenance facts evidence).externalClaims relation) :
    ∃ reading, evidence.get claim.provider = some reading ∧ reading.status = .ok := by
  obtain ⟨hclaim,hext⟩ := List.mem_filter.mp h
  obtain ⟨hclaim,-⟩ := List.mem_filter.mp hclaim
  rcases List.mem_append.mp hclaim with hk | hc
  · rw [kernelClaims_internal hk] at hext
    exact absurd hext (by decide)
  · obtain ⟨c,hc,hclaim⟩ := List.mem_flatMap.mp hc
    obtain ⟨reading,hr,hok,hfound⟩ := derive_claims hclaim
    exact ⟨reading,(correlate_provider hc hfound).symm ▸ hr,hok⟩

theorem gapless_absent {reading : ProviderReading} (hr : evidence.get provider = some reading) (ha : reading.status = .absent) :
    Gapless (deriveProvenance facts evidence) provider := by
  intro source hsource hp
  rcases List.mem_cons.mp hsource with rfl | hsource
  · simp only [kernelClaims]
    repeat' split
    all_goals rfl
  · obtain ⟨c,hc,rfl⟩ := List.mem_map.mp hsource
    rw [derive_provider] at hp
    exact derive_absent (hp.symm ▸ hr) ha

variable {kind : ObjectKind} {observation : Option Observation}

theorem interface_read (hkind : kind = .networkInterface) {claim : OwnershipClaim} {relation : OwnershipRelation}
    (h : claim ∈ (forObject kind observation evidence).externalClaims relation) :
    ∃ reading, evidence.get claim.provider = some reading ∧ reading.status = .ok := by
  subst hkind
  cases observation with
  | none => exact absurd h List.not_mem_nil
  | some o => exact external_read h

theorem interface_absent (hkind : kind = .networkInterface) {reading : ProviderReading} (hr : evidence.get provider = some reading)
    (ha : reading.status = .absent) : Gapless (forObject kind observation evidence) provider := by
  subst hkind
  cases observation with
  | none => exact fun source hsource => absurd hsource List.not_mem_nil
  | some o => exact gapless_absent hr ha

end Claims

section Rows

variable {id : ObjectId} {intentId : IntentId} {provenance : Provenance} {evidence : ProviderEvidence} {now : Instant}
  {t t' : Conflicts} {relation : OwnershipRelation}

abbrev Row := Episode Key Conflict OwnershipResolution

/-- What a sweep makes of one open conflict. -/
def Fate (provenance : Provenance) (evidence : ProviderEvidence) (before after : Row) : Prop :=
  after.id = before.id ∧ after.key = before.key ∧
    ((provenance.externalClaims before.key.2 ≠ [] ∧ after.resolution = none) ∨
      (provenance.externalClaims before.key.2 = [] ∧ after.evidence.lastSeenAt = before.evidence.lastSeenAt ∧
        (after.resolution = none ∨ Usable evidence before.evidence.ownerProvider)))

theorem update_rows {r : Row} (hr : t.openForKey (id,relation) = some r) (f : Conflict → Conflict) :
    (∀ q ∈ t.rows, q.key ≠ (id,relation) → q ∈ (t.update r.id f).rows) ∧
      ⟨r.id,r.key,f r.evidence,none⟩ ∈ (t.update r.id f).rows := by
  obtain ⟨hmem,hopen,hkey⟩ := Episodes.openForKey_some.mp hr
  constructor
  · intro q hq hne
    have hid : q.id ≠ r.id := fun hid => hne (t.id_eq hq hmem hid ▸ hkey)
    exact Episodes.mem_update.mpr ⟨q,hq,(if_neg hid).symm⟩
  · refine Episodes.mem_update.mpr ⟨r,hmem,?_⟩
    rw [if_pos rfl,Option.isNone_iff_eq_none.mp hopen]

theorem resolve_rows {r : Row} (hr : t.openForKey (id,relation) = some r) (resolution : OwnershipResolution) :
    (∀ q ∈ t.rows, q.key ≠ (id,relation) → q ∈ (t.resolve r.id resolution).rows) ∧
      ⟨r.id,r.key,r.evidence,some resolution⟩ ∈ (t.resolve r.id resolution).rows := by
  obtain ⟨hmem,hopen,hkey⟩ := Episodes.openForKey_some.mp hr
  constructor
  · intro q hq hne
    have hid : q.id ≠ r.id := fun hid => hne (t.id_eq hq hmem hid ▸ hkey)
    exact Episodes.mem_resolve.mpr ⟨q,hq,(if_neg hid).symm⟩
  · exact Episodes.mem_resolve.mpr ⟨r,hmem,(if_pos rfl).symm⟩

theorem insert_rows {e : Conflict} (h : t.insert (id,relation) e = some t') : ∀ q ∈ t.rows, q ∈ t'.rows := by
  unfold Episodes.insert at h
  split at h
  · cases h
    exact fun q hq => List.mem_append_left _ hq
  · cases h

theorem evaluateRelation_rows (h : Store.evaluateRelation id intentId provenance evidence now t relation = .ok t') :
    (∀ q ∈ t.rows, q.key ≠ (id,relation) → q ∈ t'.rows) ∧
      ∀ before, t.openForKey (id,relation) = some before → ∃ after ∈ t'.rows, Fate provenance evidence before after := by
  have hkey : ∀ before : Row, t.openForKey (id,relation) = some before → before.key.2 = relation := fun before hb =>
    congrArg Prod.snd (Episodes.openForKey_some.mp hb).2.2
  simp only [Store.evaluateRelation] at h
  split at h
  · next existing claim rest hclaims =>
    split at h
    · next hnone =>
      refine ⟨fun q hq _ => insert_rows (orElse_ok.mp h) q hq,fun before hb => ?_⟩
      rw [hnone] at hb
      cases hb
    · next r hr =>
      cases h
      refine ⟨(update_rows hr _).1,fun before hb => ?_⟩
      obtain rfl := Option.some.inj (hr.symm.trans hb)
      exact ⟨_,(update_rows hr _).2,rfl,rfl,.inl ⟨by rw [hkey _ hr,hclaims]; exact List.cons_ne_nil _ _,rfl⟩⟩
  · next hnone hclaims =>
    cases h
    refine ⟨fun q hq _ => hq,fun before hb => ?_⟩
    rw [hnone] at hb
    cases hb
  · next r hr hclaims =>
    have htouched : ∃ after ∈ (t.update r.id fun e => {e with updatedAt := now}).rows, Fate provenance evidence r after :=
      ⟨_,(update_rows hr _).2,rfl,rfl,.inr ⟨by rw [hkey _ hr,hclaims],rfl,.inl rfl⟩⟩
    split at h
    · cases h
      refine ⟨(update_rows hr _).1,fun before hb => ?_⟩
      obtain rfl := Option.some.inj (hr.symm.trans hb)
      exact htouched
    · next reading hreading =>
      split at h
      · next husable =>
        cases h
        refine ⟨(resolve_rows hr _).1,fun before hb => ?_⟩
        obtain rfl := Option.some.inj (hr.symm.trans hb)
        exact ⟨_,(resolve_rows hr _).2,rfl,rfl,.inr ⟨by rw [hkey _ hr,hclaims],rfl,.inr ⟨reading,hreading,husable⟩⟩⟩
      · cases h
        refine ⟨(update_rows hr _).1,fun before hb => ?_⟩
        obtain rfl := Option.some.inj (hr.symm.trans hb)
        exact htouched

/-- Both relations of one object in turn. -/
theorem evaluateRelations_rows (relation : OwnershipRelation)
    (h : Store.relations.foldlM (Store.evaluateRelation id intentId provenance evidence now) t = .ok t') :
    (∀ q ∈ t.rows, q.key.1 ≠ id → q ∈ t'.rows) ∧
      ∀ before, t.openForKey (id,relation) = some before → ∃ after ∈ t'.rows, Fate provenance evidence before after := by
  obtain ⟨u,hcreated,h⟩ := foldlM_ok_cons.mp h
  obtain ⟨v,hconfigured,h⟩ := foldlM_ok_cons.mp h
  cases foldlM_ok_nil.mp h
  obtain ⟨hkeep,hfate⟩ := evaluateRelation_rows hcreated
  obtain ⟨hkeep',hfate'⟩ := evaluateRelation_rows hconfigured
  refine ⟨fun q hq hne => hkeep' q (hkeep q hq fun heq => hne (congrArg Prod.fst heq)) fun heq => hne (congrArg Prod.fst heq),
    fun before hb => ?_⟩
  obtain ⟨hmem,hopen,hkey⟩ := Episodes.openForKey_some.mp hb
  cases relation with
  | createdBy =>
    obtain ⟨after,hafter,hf⟩ := hfate before hb
    exact ⟨after,hkeep' after hafter (by rw [hf.2.1,hkey]; simp),hf⟩
  | configuredBy =>
    have hstill : before ∈ u.rows := hkeep before hmem (by rw [hkey]; simp)
    exact hfate' before (Episodes.openForKey_some.mpr ⟨hstill,hopen,hkey⟩)

/-- One object a sweep saw: its conflicts are decided if it is managed, and no other's are touched. -/
theorem evaluateSeen_rows {u u' : Store} (h : Managed.Inv u) (hop : Store.evaluateSeen evidence now u id = .ok u') :
    (∀ q ∈ u.conflicts.rows, q.key.1 ≠ id → q ∈ u'.conflicts.rows) ∧
      ∀ before relation, u.conflicts.openForKey (id,relation) = some before → before ∈ u'.conflicts.rows ∨
        ∃ record, u.estate.get id = some record ∧ record.row.managementState = .managed ∧
          ∃ after ∈ u'.conflicts.rows, Fate (forObject record.row.kind record.observation evidence) evidence before after := by
  have hidle : (∀ q ∈ u.conflicts.rows, q.key.1 ≠ id → q ∈ u.conflicts.rows) ∧
      ∀ before relation, u.conflicts.openForKey (id,relation) = some before → before ∈ u.conflicts.rows ∨
        ∃ record, u.estate.get id = some record ∧ record.row.managementState = .managed ∧
          ∃ after ∈ u.conflicts.rows, Fate (forObject record.row.kind record.observation evidence) evidence before after :=
    ⟨fun q hq _ => hq,fun before relation hb => .inl (Episodes.openForKey_some.mp hb).1⟩
  unfold Store.evaluateSeen at hop
  split at hop
  · cases hop
    exact hidle
  · next record hget =>
    split at hop
    · cases hop
      exact hidle
    · next hm =>
      split at hop
      · cases hop
        exact hidle
      · obtain ⟨u₁,hev,hown⟩ := bind_ok.mp hop
        obtain ⟨findings,rfl,-⟩ := Store.evaluate_ok hev
        obtain ⟨conflicts,rfl,hfold⟩ := Store.evaluateOwnership_ok hown
        rw [h.owned id _ (Store.get_some hget).1] at hfold
        refine ⟨(evaluateRelations_rows .createdBy hfold).1,fun before relation hb => .inr ?_⟩
        exact ⟨record,hget,not_not.mp hm,(evaluateRelations_rows relation hfold).2 before hb⟩

theorem evaluateSeens_rows {l : List ObjectId} {u u' : Store} (hnodup : l.Nodup) (h : Managed.Inv u)
    (hop : l.foldlM (Store.evaluateSeen evidence now) u = .ok u') :
    (∀ q ∈ u.conflicts.rows, q.key.1 ∉ l → q ∈ u'.conflicts.rows) ∧
      ∀ before id relation, id ∈ l → u.conflicts.openForKey (id,relation) = some before → before ∈ u'.conflicts.rows ∨
        ∃ record, u.estate.get id = some record ∧ record.row.managementState = .managed ∧
          ∃ after ∈ u'.conflicts.rows, Fate (forObject record.row.kind record.observation evidence) evidence before after := by
  induction l generalizing u with
  | nil =>
    cases foldlM_ok_nil.mp hop
    exact ⟨fun q hq _ => hq,fun _ _ _ hid => (nomatch hid)⟩
  | cons a l ih =>
    obtain ⟨u₁,hfirst,hrest⟩ := foldlM_ok_cons.mp hop
    obtain ⟨hnot,hnodup⟩ := List.nodup_cons.mp hnodup
    have hu₁ := Store.evaluateSeen_ok hfirst
    have hinv : Managed.Inv u₁ := by
      rw [hu₁]
      exact h.claims _ _
    have hestate : u₁.estate = u.estate := by rw [hu₁]
    obtain ⟨hkeep,hdecided⟩ := evaluateSeen_rows h hfirst
    obtain ⟨hkeep',hdecided'⟩ := ih hnodup hinv hrest
    refine ⟨fun q hq hne => ?_,fun before id relation hid hb => ?_⟩
    · exact hkeep' q (hkeep q hq fun heq => hne (heq ▸ List.mem_cons_self)) fun hmem => hne (List.mem_cons_of_mem _ hmem)
    · obtain ⟨hmem,hopen,hkey⟩ := Episodes.openForKey_some.mp hb
      rcases List.mem_cons.mp hid with rfl | hid
      · rcases hdecided before relation hb with hsame | ⟨record,hget,hm,after,hafter,hfate⟩
        · exact .inl (hkeep' before hsame (by rw [hkey]; exact hnot))
        · refine .inr ⟨record,hget,hm,after,hkeep' after hafter ?_,hfate⟩
          rw [hfate.2.1,hkey]
          exact hnot
      · have hne : id ≠ a := fun heq => hnot (heq ▸ hid)
        have hstill : u₁.conflicts.openForKey (id,relation) = some before :=
          Episodes.openForKey_some.mpr ⟨hkeep before hmem (by rw [hkey]; exact hne),hopen,hkey⟩
        rw [← hestate]
        exact hdecided' before id relation hid hstill

end Rows

section Operations

variable {s s' : Store} {op : Operation}

/-- Every object came from a sweep of the network. -/
def Interfaces (s : Store) : Prop := ∀ id row, s.estate.objects id = some row → row.kind = .networkInterface

theorem Interfaces.setObject (h : Interfaces s) {id : ObjectId} {f : ObjectRow → ObjectRow} (hf : ∀ row, (f row).kind = row.kind) :
    Interfaces (s.setObject id f) := by
  intro other row hrow
  by_cases ho : other = id
  · subst ho
    simp only [Store.setObject,Function.update_self] at hrow
    obtain ⟨r,hr,rfl⟩ := Option.map_eq_some_iff.mp hrow
    exact (hf r).trans (h other r hr)
  · simp only [Store.setObject,Function.update_of_ne ho] at hrow
    exact h other row hrow

theorem upserts_interfaces {hostId : HostId} (l : List (ObjectId × Reported)) {objects : ObjectId → Option ObjectRow}
    (h : ∀ id row, objects id = some row → row.kind = .networkInterface) :
    ∀ id row, l.foldl (Estate.upsert hostId .networkInterface) objects id = some row → row.kind = .networkInterface := by
  induction l generalizing objects with
  | nil => exact h
  | cons seen l ih =>
    refine ih fun id row hrow => ?_
    by_cases hid : id = seen.1
    · subst hid
      simp only [Estate.upsert,Function.update_self,Option.some.injEq] at hrow
      cases hr : objects seen.1 with
      | none =>
        rw [hr] at hrow
        exact hrow ▸ rfl
      | some r =>
        rw [hr] at hrow
        have hkind : (Estate.conflictRow .networkInterface r seen.2).kind = r.kind := by
          unfold Estate.conflictRow
          split <;> rfl
        exact hrow ▸ hkind.trans (h seen.1 r hr)
    · simp only [Estate.upsert,Function.update_of_ne hid] at hrow
      exact h id row hrow

theorem interfaces_commit {c : Managed.State} (h : Interfaces s) (hop : Managed.ofNetwork c op) :
    Interfaces (Managed.commit s op) := by
  unfold Managed.commit
  split
  · next s' hrun =>
    cases op with
    | sweepNetwork sweep batch reported now =>
      obtain ⟨estate,he,hfold⟩ := Store.ingestNetwork_ok hrun
      obtain ⟨-,rfl⟩ := Estate.ingest_eq he
      rw [Store.foldlM_evaluateSeen_ok hfold]
      exact upserts_interfaces _ h
    | sweepOther kind sweep batch => exact hop.elim
    | adopt before clock intentId record =>
      obtain ⟨row,o,findings,-,-,-,-,-,rfl,-⟩ := Store.adopt_ok hrun
      exact Interfaces.setObject (s:={s with intents := _}) h fun _ => rfl
    | revise before clock intentId record wanted expected expectedVersion =>
      obtain ⟨row,active,o,plan,findings,-,-,-,-,-,-,-,rfl,-⟩ := Store.revise_ok hrun
      refine Interfaces.setObject (s:={s with intents := _}) h fun row => ?_
      unfold repointedRow
      split <;> rfl
    | release record =>
      obtain ⟨row,intentId,-,-,-,rfl⟩ := Store.release_ok hrun
      exact h.setObject fun _ => rfl
  · exact h

/-- Nothing was settled or proved about a conflict that an operation left as it was. -/
theorem earned_same {c : State} (h : ∀ key before, c.store.conflicts.openForKey key = some before →
    ∃ after ∈ (Managed.commit c.store op).conflicts.rows, after.id = before.id ∧
      after.evidence.lastSeenAt = before.evidence.lastSeenAt ∧ after.resolution ≠ some .ownerNoLongerClaims) :
    Earned c op := by
  intro key before after hb hafter hid
  obtain ⟨same,hsame,hsid,hseen,hres⟩ := h key before hb
  obtain rfl := (Managed.commit c.store op).conflicts.id_eq hafter hsame (hid.trans hsid.symm)
  exact ⟨fun hr => absurd hr hres,fun hne => absurd hseen hne⟩

theorem earned_of_rows {c : State} (h : (Managed.commit c.store op).conflicts = c.store.conflicts) : Earned c op := by
  refine earned_same fun key before hb => ?_
  obtain ⟨hmem,hopen,-⟩ := Episodes.openForKey_some.mp hb
  refine ⟨before,h ▸ hmem,rfl,rfl,?_⟩
  simp [Option.isNone_iff_eq_none.mp hopen]

theorem earned_release {c : State} {record : ObjectRecord} (hrun : Store.release c.store record = .ok s') :
    Earned c (.release record) := by
  have hcommit : Managed.commit c.store (.release record) = s' := by simp [Managed.commit,Operation.run,hrun]
  obtain ⟨row,intentId,-,-,-,heq⟩ := Store.release_ok hrun
  refine earned_same fun key before hb => ?_
  obtain ⟨hmem,hopen,-⟩ := Episodes.openForKey_some.mp hb
  have hrows : s'.conflicts.rows = c.store.conflicts.rows.map fun r =>
      if r.id ∈ (c.store.conflicts.openWhere (·.1 = record.row.objectId)).map (·.id) then
        ⟨r.id,r.key,r.evidence,some .intentReleased⟩
      else r := by
    rw [heq]
    exact Episodes.rows_foldl_resolve _ _ _
  refine ⟨_,by rw [hcommit,hrows]; exact List.mem_map_of_mem hmem,?_⟩
  split
  · exact ⟨rfl,rfl,by simp⟩
  · exact ⟨rfl,rfl,by simp [Option.isNone_iff_eq_none.mp hopen]⟩

/-- A sweep of the network decides the conflicts of the managed objects it saw. -/
theorem earned_network {c : State} {sweep : SweepId} {batch : Batch} {reported : List ReportedReading} {now : Instant}
    (h : Managed.Inv c.store) (hkinds : Interfaces c.store) (hconclusive : Conclusive c (.sweepNetwork sweep batch reported now))
    (hrun : c.store.ingestNetwork sweep batch reported now = .ok s') : Earned c (.sweepNetwork sweep batch reported now) := by
  have hcommit : Managed.commit c.store (.sweepNetwork sweep batch reported now) = s' := by
    simp [Managed.commit,Operation.run,hrun]
  have hinv := Managed.inv_commit h (.sweepNetwork sweep batch reported now)
  have hinterfaces : Interfaces (Managed.commit c.store (.sweepNetwork sweep batch reported now)) :=
    interfaces_commit (c:=⟨c.store,[]⟩) hkinds trivial
  rw [hcommit] at hinv hinterfaces
  obtain ⟨estate,he,hfold⟩ := Store.ingestNetwork_ok hrun
  have hs' := Store.foldlM_evaluateSeen_ok hfold
  have hstart : Managed.Inv {c.store with
      estate := estate
      readings := c.store.readings ++ (Store.providerRows reported []).map fun r => (batch.hostId,r)} :=
    Managed.inv_ingest h he rfl rfl rfl rfl
  obtain ⟨hother,hseen⟩ := evaluateSeens_rows (List.nodup_dedup _) hstart hfold
  intro key before after hb hafter hid
  rw [hcommit] at hafter
  obtain ⟨hmem,hopen,hkey⟩ := Episodes.openForKey_some.mp hb
  have hidle : before ∈ s'.conflicts.rows → after.resolution = none ∧ after.evidence.lastSeenAt = before.evidence.lastSeenAt :=
    fun hstill => by
      obtain rfl := s'.conflicts.id_eq hafter hstill hid
      exact ⟨Option.isNone_iff_eq_none.mp hopen,rfl⟩
  have hcases : (after.resolution = none ∧ after.evidence.lastSeenAt = before.evidence.lastSeenAt) ∨
      ∃ record, s'.estate.get key.1 = some record ∧ record.row.managementState = .managed ∧
        key.1 ∈ batch.identified.map (·.1) ∧ Fate (forObject record.row.kind record.observation
          (Store.providerRows reported [])) (Store.providerRows reported []) before after := by
    by_cases hin : key.1 ∈ batch.identified.map (·.1)
    · rcases hseen before key.1 key.2 (List.mem_dedup.mpr hin) hb with hstill | ⟨record,hget,hm,found,hfound,hfate⟩
      · exact .inl (hidle hstill)
      · obtain rfl := s'.conflicts.id_eq hafter hfound (hid.trans hfate.1.symm)
        exact .inr ⟨record,by rw [hs']; exact hget,hm,hin,hfate⟩
    · exact .inl (hidle (hother before hmem (by rw [hkey]; exact fun hm => hin (List.mem_dedup.mp hm))))
  rcases hcases with ⟨hnone,hsame⟩ | ⟨record,hget,hm,hin,hfate⟩
  · exact ⟨fun hr => absurd hr (by simp [hnone]),fun hne => absurd hsame hne⟩
  · have hassessed : assessed c.store (.sweepNetwork sweep batch reported now) key.1 = some
        (forObject record.row.kind record.observation (Store.providerRows reported []),Store.providerRows reported []) := by
      simp only [assessed,hrun,if_pos hin,hget,if_pos hm]
    have hkind : record.row.kind = .networkInterface := hinterfaces _ _ (Store.get_some hget).1
    obtain ⟨-,-,⟨hclaims,hnone⟩ | ⟨hclaims,hsame,husable⟩⟩ := hfate
    · rw [hkey] at hclaims
      obtain ⟨claim,hclaim⟩ := List.exists_mem_of_ne_nil _ hclaims
      exact ⟨fun hr => absurd hr (by simp [hnone]),
        fun _ => ⟨_,_,hassessed,claim,hclaim,interface_read hkind hclaim⟩⟩
    · rw [hkey] at hclaims
      refine ⟨fun hr => ⟨_,_,hassessed,fun provider hp => ?_⟩,fun hne => absurd hsame hne⟩
      obtain ⟨named,hnamed,hstatus⟩ : Usable _ before.evidence.ownerProvider :=
        husable.resolve_left fun hnone => by rw [hnone] at hr; cases hr
      obtain ⟨howner,hothers⟩ := hconclusive before hmem hopen _ (hkey ▸ hassessed) (hkey ▸ hclaims) named hnamed hstatus
      by_cases hprovider : provider = before.evidence.ownerProvider
      · subst hprovider
        refine ⟨⟨named,hnamed,hstatus⟩,?_⟩
        rcases hstatus with hok | habsent
        · exact howner hok
        · exact interface_absent hkind hnamed habsent
      · exact hothers provider (hkey ▸ hp) hprovider

theorem earned_of_ruled {c : State} (h : Managed.Inv c.store) (hkinds : Interfaces c.store) (hruled : ruled c op) : Earned c op := by
  cases hrun : op.run c.store with
  | error code =>
    have hcommit : Managed.commit c.store op = c.store := by simp [Managed.commit,hrun]
    exact earned_of_rows (by rw [hcommit])
  | ok s' =>
    have hcommit : Managed.commit c.store op = s' := by simp [Managed.commit,hrun]
    cases op with
    | sweepNetwork sweep batch reported now => exact earned_network h hkinds hruled.2 hrun
    | sweepOther kind sweep batch => exact hruled.1.elim
    | adopt before clock intentId record =>
      obtain ⟨row,o,findings,-,-,-,-,-,heq,-⟩ := Store.adopt_ok hrun
      exact earned_of_rows (by rw [hcommit,heq]; rfl)
    | revise before clock intentId record wanted expected expectedVersion =>
      obtain ⟨row,active,o,plan,findings,-,-,-,-,-,-,-,heq,-⟩ := Store.revise_ok hrun
      exact earned_of_rows (by rw [hcommit,heq]; rfl)
    | release record => exact earned_release hrun

end Operations

theorem reached_inv {R : State → Operation → Prop} {c : State} (hR : ∀ c op, R c op → Managed.ofNetwork ⟨c.store,[]⟩ op)
    (h : Machine.Reach machine R c) : Managed.Inv c.store ∧ Interfaces c.store := by
  let I : State → Prop := fun c => Managed.Inv c.store ∧ Interfaces c.store
  refine Machine.Reach.invariant (M:=machine) (I:=I) (fun c hc => ?_) (fun op c c' hI hop hs => ?_) h
  · obtain rfl : c = ⟨Store.empty,fun _ => []⟩ := hc
    exact ⟨(Managed.reached_inv (.start rfl)).1,fun id row hrow => (nomatch hrow)⟩
  · cases hs
    exact ⟨Managed.inv_commit hI.1 op,interfaces_commit hI.2 (hR c op hop)⟩

theorem earned_of_conclusive (c : State) (h : Machine.Reach machine ruled c) (op : Operation) (hop : ruled c op) : Earned c op :=
  have hreached := reached_inv (fun _ _ hr => hr.1) h
  earned_of_ruled hreached.1 hreached.2 hop

section Histories

instance (status : ProviderStatus) : Decidable (Settling status) := inferInstanceAs (Decidable (_ ∨ _))

instance (evidence : ProviderEvidence) (provider : String) : Decidable (Usable evidence provider) :=
  inferInstanceAs (Decidable (∃ reading ∈ evidence.get provider, Settling reading.status))

instance (provenance : Provenance) (provider : String) : Decidable (Gapless provenance provider) :=
  inferInstanceAs (Decidable (∀ source ∈ provenance.sources, source.provider = provider → source.gap = false))

instance decidableConclusive (c : State) (op : Operation) : Decidable (Conclusive c op) := by
  have arrow {p q : Prop} [Decidable p] [Decidable q] : Decidable (p → q) := instDecidableForall
  unfold Conclusive
  infer_instance

instance decidableRuled : ∀ (c : machine.State) (op : machine.Act), Decidable (ruled c op)
  | _,.sweepOther .. => .isFalse fun h => h.1
  | c,.sweepNetwork sweep batch reported now =>
    @decidable_of_iff _ _ ⟨fun h => ⟨trivial,h⟩,And.right⟩ (decidableConclusive c (.sweepNetwork sweep batch reported now))
  | _,.adopt .. | _,.revise .. | _,.release .. => .isTrue ⟨trivial,fun _ _ _ _ hx => (nomatch hx)⟩

/-- A bridge, with the addresses on it when they could be read. -/
def br0Sweep (observedAt : Instant) (addresses : LineProtocol.Fields) : Batch :=
  ⟨"host","network.observe","linux.network","ok",[⟨some 7,"br0","br0",observedAt,
    [("name",.str "br0"),("kind",.str "bridge"),("admin_up",.bool true),("mtu",.num 1500)] ++ addresses⟩]⟩

def br0Addresses : LineProtocol.Fields := [("addresses",.arr [.obj [("address",.str "10.0.0.1")]])]

def dockerSays (status : ProviderStatus) (observedAt : Instant) : ReportedReading :=
  ⟨docker,"docker.networks",some status,if status = .ok then none else some "docker_not_installed",observedAt,
    if status = .ok then [[("network_id",.str "n1"),("name",.str "web"),("driver",.str "bridge"),
      ("ipam",.arr [.obj [("gateway",.str "10.0.0.1")]])]] else []⟩

/-- A bridge is adopted, and then a network of the daemon claims it. -/
def claimed : List Operation :=
  let o₀ : Operation := .sweepNetwork 0 (br0Sweep 10 br0Addresses) [] 11
  let s₀ := Managed.commit Store.empty o₀
  [o₀,.adopt s₀ ⟨12,60⟩ 100 (Managed.eth0Record s₀),.sweepNetwork 1 (br0Sweep 20 br0Addresses) [dockerSays .ok 20] 21]

/-- The addresses on the bridge could not be read. -/
def unread : Operation := .sweepNetwork 2 (br0Sweep 30 []) [dockerSays .ok 30] 31

/-- The daemon was removed. -/
def gone : Operation := .sweepNetwork 2 (br0Sweep 30 []) [dockerSays .absent 30] 31

def start : machine.State := (⟨Store.empty,fun _ => []⟩ : State)

/-- An operation that closes the conflict over who made the bridge for want of a claim. -/
def closes (op : Operation) (c : machine.State) : Bool :=
  let c : State := c
  (c.store.conflicts.openForKey (7,.createdBy)).any fun before => (Managed.commit c.store op).conflicts.rows.any fun after =>
    decide (after.id = before.id) && decide (after.resolution = some .ownerNoLongerClaims)

theorem closes_spec {op : Operation} {c : State} (h : closes op c = true) :
    ∃ before after, c.store.conflicts.openForKey (7,.createdBy) = some before ∧
      after ∈ (Managed.commit c.store op).conflicts.rows ∧ after.id = before.id ∧
      after.resolution = some .ownerNoLongerClaims := by
  obtain ⟨before,hb,h⟩ := (Option.any_eq_true ..).mp h
  obtain ⟨after,hafter,h⟩ := List.any_eq_true.mp h
  obtain ⟨hid,hres⟩ := Bool.and_eq_true_iff.mp h
  exact ⟨before,after,hb,hafter,of_decide_eq_true hid,of_decide_eq_true hres⟩

/-- The conflict is closed because the daemon that claimed the bridge is no longer installed. -/
theorem earned_by_absence : ∃ c : State, closes gone c = true ∧ Earned c gone := by
  obtain ⟨c,hc,hp⟩ := Machine.exists_of_play (M:=machine) (R:=ruled) (s:=start) rfl claimed
    (fun c => closes gone c && @decide _ (decidableRuled c gone)) (by decide +kernel)
  obtain ⟨hcloses,hruled⟩ := Bool.and_eq_true_iff.mp hp
  exact ⟨c,hcloses,earned_of_conclusive c hc gone (@of_decide_eq_true _ (decidableRuled c gone) hruled)⟩

def networkOnly (c : State) (op : Operation) : Prop := Managed.ofNetwork ⟨c.store,[]⟩ op

instance : ∀ (c : machine.State) (op : machine.Act), Decidable (networkOnly c op)
  | _,.sweepOther .. => .isFalse id
  | _,.sweepNetwork .. | _,.adopt .. | _,.revise .. | _,.release .. => .isTrue trivial

/-- The daemon stands by its network, and the conflict is closed because nobody could say what is on the link. -/
theorem closed_unread : ¬∀ c : State, Machine.Reach machine networkOnly c → ∀ op, networkOnly c op → Earned c op := by
  intro hall
  obtain ⟨c,hc,hp⟩ := Machine.exists_of_play (M:=machine) (R:=networkOnly) (s:=start) rfl claimed
    (fun c => closes unread c && decide (docker ∈ State.provers c (7,.createdBy)) &&
      (assessed (State.store c) unread 7).all fun x => decide (¬Gapless x.1 docker)) (by decide)
  obtain ⟨hp,hgap⟩ := Bool.and_eq_true_iff.mp hp
  obtain ⟨hcloses,hprover⟩ := Bool.and_eq_true_iff.mp hp
  obtain ⟨before,after,hb,hafter,hid,hres⟩ := closes_spec hcloses
  obtain ⟨provenance,evidence,hassessed,hproved⟩ := (hall c hc unread trivial (7,.createdBy) before after hb hafter hid).1 hres
  rw [hassessed] at hgap
  exact of_decide_eq_true hgap (hproved docker (of_decide_eq_true hprover)).2

end Histories

end Conflicted
end LocalPlane
