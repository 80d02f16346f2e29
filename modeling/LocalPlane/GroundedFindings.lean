import LocalPlane.DriftFindings

/-!
# What an open drift finding rests on

A finding stays open while its field cannot be read, and follows the intent it is about.
The value it then states is one an observation was seen to differ from, unless a revision
of the unread field has moved it.
-/

set_option linter.dupNamespace false

namespace LocalPlane

open LineProtocol (Json)
open Store (ReportedReading Clock Wanted adopted revised managedRow repointedRow observedRow evaluateField)

namespace Managed

/-- Some recorded observation of an object read another value of a field. -/
def Seen (e : Estate) (id : ObjectId) (f : CapturedField) : Prop := ∃ o ∈ e.observationsOf id, ∃ v ∈ f.reading o, v ≠ f.value

instance (e : Estate) (id : ObjectId) (f : CapturedField) : Decidable (Seen e id f) :=
  inferInstanceAs (Decidable (∃ o ∈ e.observationsOf id, ∃ v ∈ f.reading o, v ≠ f.value))

/-- Every open finding states a value of its field that some recorded observation differs from. -/
def Founded (s : Store) : Prop :=
  ∀ finding ∈ s.findings.rows, finding.isOpen → finding.evidence.intended.field = finding.key.2 ∧
    Seen s.estate finding.key.1 finding.evidence.intended

instance (s : Store) : Decidable (Founded s) :=
  inferInstanceAs (Decidable (∀ finding ∈ s.findings.rows, finding.isOpen → finding.evidence.intended.field = finding.key.2 ∧
    Seen s.estate finding.key.1 finding.evidence.intended))

/-- The stated value is contradicted, and is the one the intent in force has. -/
structure Grounded (s : Store) (key : ObjectId × String) (f : CapturedField) : Prop where
  named : f.field = key.2
  seen : Seen s.estate key.1 f
  active : ∃ row intent, s.estate.objects key.1 = some row ∧ s.activeFor row = some intent ∧ f ∈ intent.fields

def Founding (s : Store) : Prop := ∀ key x, s.findings.current key = some x → Grounded s key x.2.intended

theorem Founding.founded {s : Store} (h : Founding s) : Founded s := by
  intro finding hmem hopen
  have hground := h finding.key (finding.id,finding.evidence) (Episodes.current_some.mpr ⟨finding,hmem,hopen,rfl,rfl⟩)
  exact ⟨hground.named,hground.seen⟩

/-- What a revision by value is about to retain, where nothing refuses it. -/
def drafted (before s : Store) (clock : Clock) (intentId : IntentId) (record : ObjectRecord) (requested : List (String × Json))
    (expected : IntentId) (expectedVersion : Option ℕ) : Except String (Observation × RevisionPlan) := do
  let _ ← before.verifyRevisable clock record expected expectedVersion
  let current ← orElse (s.estate.get record.row.objectId) "object_not_found"
  let (active,o) : IntentRow × Observation ← s.verifyRevisable clock current expected expectedVersion
  let plan : RevisionPlan ← planExplicitRevision active.fields requested
  let _ ← s.insertIntent (s.revised record.row.objectId intentId active.intentId o plan)
  return (o,plan)

/-- A requested value of a field nobody could read, with a finding open on it, is one that was seen contradicted. -/
def Upheld (s : Store) (id : ObjectId) (requested : List (String × Json)) (draft : Observation × RevisionPlan) : Prop :=
  ∀ f ∈ draft.2.fields, f.field ∈ requested.map (·.1) → f.reading draft.1 = none →
    (s.findings.openForKey (id,f.field)).isSome → Seen s.estate id f

/-- Every operation but the revisions that ask for a value of an unread field which nothing contradicts. -/
def upheld (c : State) : Operation → Prop
  | .revise before clock intentId record (.explicit requested) expected expectedVersion =>
    ∀ draft ∈ (drafted before c.store clock intentId record requested expected expectedVersion).toOption,
      Upheld c.store record.row.objectId requested draft
  | _ => True

instance (s : Store) (id : ObjectId) (requested : List (String × Json)) (draft : Observation × RevisionPlan) :
    Decidable (Upheld s id requested draft) :=
  inferInstanceAs (Decidable (∀ f ∈ draft.2.fields, f.field ∈ requested.map (·.1) → f.reading draft.1 = none →
    (s.findings.openForKey (id,f.field)).isSome → Seen s.estate id f))

instance : ∀ (c : machine.State) (op : machine.Act), Decidable (upheld c op)
  | c,.revise before clock intentId record (.explicit requested) expected expectedVersion =>
    inferInstanceAs (Decidable (∀ draft ∈ (drafted before (State.store c) clock intentId record requested expected
      expectedVersion).toOption, Upheld (State.store c) record.row.objectId requested draft))
  | _,.revise _ _ _ _ .runtime _ _ | _,.sweepNetwork .. | _,.sweepOther .. | _,.adopt .. | _,.release .. => .isTrue trivial

section Grounds

variable {s s' u u' : Store} {id : ObjectId} {key : ObjectId × String} {f : CapturedField}

theorem Seen.mono {e e' : Estate} (h : Seen e id f) (hmore : e.observations ⊆ e'.observations) : Seen e' id f := by
  obtain ⟨o,ho,hv⟩ := h
  obtain ⟨ho,hid⟩ := List.mem_filter.mp ho
  exact ⟨o,List.mem_filter.mpr ⟨hmore ho,hid⟩,hv⟩

/-- A finding keeps its ground while its object keeps its intent. -/
theorem Grounded.mono (h : Grounded s key f) (hmore : s.estate.observations ⊆ s'.estate.observations)
    (hrow : ∀ row, s.estate.objects key.1 = some row → row.activeIntent.isSome → ∃ row', s'.estate.objects key.1 = some row' ∧
      row'.activeIntent = row.activeIntent ∧ row'.objectId = row.objectId)
    (hintents : ∃ l, s'.intents = s.intents ++ l) : Grounded s' key f := by
  obtain ⟨row,intent,hr,hactive,hf⟩ := h.active
  obtain ⟨stored,-,hpoints,-⟩ := Store.activeFor_some hactive
  obtain ⟨row',hr',hpoints',howned⟩ := hrow row hr (by rw [hpoints]; rfl)
  exact ⟨h.named,h.seen.mono hmore,row',intent,hr',activeFor_grown hactive hpoints' howned hintents,hf⟩

theorem Founding.field (h : Founding s) {field : String} {x : ℕ × Drift} {row : ObjectRow} {intent : IntentRow}
    (hrow : s.estate.objects id = some row) (hactive : s.activeFor row = some intent)
    (hx : s.findings.current (id,field) = some x) : x.2.intended ∈ intent.fields ∧ x.2.intended.field = field := by
  have hground := h _ x hx
  obtain ⟨row',intent',hrow',hactive',hf⟩ := hground.active
  cases hrow.symm.trans hrow'
  cases hactive.symm.trans hactive'
  exact ⟨hf,hground.named⟩

/-- What is open on a field the intent in force has was seen to differ from it. -/
theorem Founding.seen (h : Founding s) {row : ObjectRow} {intent : IntentRow} (hrow : s.estate.objects id = some row)
    (hactive : s.activeFor row = some intent) (hkeys : intent.fields.map CapturedField.key = adoptableKeys)
    (hf : f ∈ intent.fields) (hopen : (s.findings.current (id,f.field)).isSome) : Seen s.estate id f := by
  obtain ⟨x,hx⟩ := Option.isSome_iff_exists.mp hopen
  obtain ⟨hmem,hname⟩ := h.field hrow hactive hx
  have heq : x.2.intended = f := List.inj_on_of_nodup_map (names_nodup hkeys) hmem hf hname
  exact heq ▸ (h _ x hx).seen

/-- An object whose every controlled field was just compared. -/
theorem founding_of_evaluated {row : ObjectRow} {intent : IntentRow} {t : Findings} {intentId : IntentId} {sweepId : Option SweepId}
    {now : Instant} {names : List String} (hrow : s.estate.objects id = some row) (hactive : s.activeFor row = some intent)
    (hkeys : intent.fields.map CapturedField.key = adoptableKeys)
    (hforeign : ∀ field, field ∉ adoptableKeys.map Prod.fst → t.current (id,field) = none)
    (hunread : ∀ c ∈ reconcile intent.capability intent.provider intent.fields (s.estate.newest id), c.comparison = .unknown →
      (t.current (id,c.intended.field)).isSome → Seen s.estate id c.intended)
    (hothers : ∀ key x, key.1 ≠ id → t.current key = some x → Grounded s key x.2.intended)
    (hfold : (reconcile intent.capability intent.provider intent.fields (s.estate.newest id)).foldlM
      (evaluateField id intentId sweepId now names) t = .ok s.findings) : Founding s := by
  obtain ⟨hframe,heach⟩ := evaluateFields_ok (nodup_reconcile hkeys) hfold
  rintro ⟨other,field⟩ x hx
  by_cases ho : other = id
  · subst ho
    by_cases hc : ∃ c ∈ reconcile intent.capability intent.provider intent.fields (s.estate.newest other), c.intended.field = field
    · obtain ⟨c,hc,rfl⟩ := hc
      obtain ⟨hfits,hspares,hstates⟩ := heach c hc
      have hstated : x.2.intended = c.intended := hstates x hx
      rw [hstated]
      refine ⟨rfl,?_,row,intent,hrow,hactive,reconcile_mem hc⟩
      cases hcmp : c.comparison with
      | agrees =>
        simp only [Fits,hcmp] at hfits
        rw [hfits] at hx
        cases hx
      | differs =>
        obtain ⟨o,ho,hv⟩ := reconcile_differs hc hcmp
        exact ⟨o,Table.latest_mem ho,hv⟩
      | unknown =>
        -- what is open here was open before
        have hbefore := hspares hcmp
        rw [hx] at hbefore
        refine hunread c hc hcmp ?_
        rw [← Option.isSome_map (f:=Prod.fst),← hbefore]
        rfl
    · have hfield : field ∉ adoptableKeys.map Prod.fst := fun hmem => hc (exists_compared hkeys hmem)
      rw [hframe _ fun c hmem heq => hc ⟨c,hmem,(congrArg Prod.snd heq).symm⟩,hforeign field hfield] at hx
      cases hx
  · rw [hframe _ fun c _ heq => ho (congrArg Prod.fst heq)] at hx
    exact hothers _ x ho hx

/-- Nothing is open on a field that cannot be adopted. -/
theorem Founding.foreign (h : Founding s) (hinv : Inv s) {field : String} (hfield : field ∉ adoptableKeys.map Prod.fst) :
    s.findings.current (id,field) = none := by
  by_contra hne
  obtain ⟨x,hx⟩ := Option.ne_none_iff_exists'.mp hne
  have hground := h _ x hx
  obtain ⟨row,intent,hrow,hactive,hf⟩ := hground.active
  obtain ⟨stored,hlast,-,hfields⟩ := hinv.last_of_active hrow hactive
  have hkeys := hinv.keys stored (Inv.intentsOf_mem (List.mem_of_getLast? hlast)).1
  have hname : x.2.intended.field = field := hground.named
  apply hfield
  rw [← hname,← hkeys,List.map_map,← hfields]
  exact List.mem_map_of_mem (f:=fun f => f.field) hf

/-- One object a sweep saw. -/
theorem founding_evaluateSeen {evidence : ProviderEvidence} {now : Instant} (hinv : Inv u) (h : Founding u)
    (hop : Store.evaluateSeen evidence now u id = .ok u') : Inv u' ∧ Founding u' := by
  unfold Store.evaluateSeen at hop
  split at hop
  · cases hop
    exact ⟨hinv,h⟩
  · next record hget =>
    obtain ⟨hrow,hobs⟩ := Store.get_some hget
    split at hop
    · cases hop
      exact ⟨hinv,h⟩
    · next hm =>
      obtain ⟨stored,hactive,hkeys⟩ := exists_active hinv hrow (not_not.mp hm)
      rw [hactive] at hop
      obtain ⟨u₁,hev,hown⟩ := bind_ok.mp hop
      obtain ⟨findings,rfl,hfold⟩ := Store.evaluate_ok hev
      obtain ⟨conflicts,rfl,-⟩ := Store.evaluateOwnership_ok hown
      rw [hobs,hinv.owned id _ hrow] at hfold
      refine ⟨hinv.claims _ _,?_⟩
      exact founding_of_evaluated (s:={u with findings := findings,conflicts := conflicts}) hrow hactive hkeys
        (fun field hfield => h.foreign hinv hfield)
        (fun c hc _ hopen => h.seen hrow hactive hkeys (reconcile_mem hc) hopen)
        (fun key x _ hx => (h key x hx).mono (List.Subset.refl _) (fun row hr _ => ⟨row,hr,rfl,rfl⟩) ⟨[],(List.append_nil _).symm⟩)
        hfold

theorem founding_evaluateSeens {evidence : ProviderEvidence} {now : Instant} {l : List ObjectId} (hinv : Inv u) (h : Founding u)
    (hop : l.foldlM (Store.evaluateSeen evidence now) u = .ok u') : Founding u' := by
  induction l generalizing u with
  | nil =>
    cases foldlM_ok_nil.mp hop
    exact h
  | cons a l ih =>
    obtain ⟨u₁,hfirst,hrest⟩ := foldlM_ok_cons.mp hop
    obtain ⟨hinv,h⟩ := founding_evaluateSeen hinv h hfirst
    exact ih hinv h hrest

/-- A sweep only adds observations, and leaves what is managed under its intent. -/
theorem founding_ingest {kind : ObjectKind} {sweep : SweepId} {batch : Batch} {estate : Estate} (hinv : Inv s) (h : Founding s)
    (he : s.estate.ingest kind sweep batch = some estate) (hinv' : Inv u) (hestate : u.estate = estate)
    (hintents : u.intents = s.intents) (hfindings : u.findings = s.findings) : Founding u := by
  intro key x hx
  rw [hfindings] at hx
  refine (h key x hx).mono ?_ (fun row hr hpoints => ?_) ⟨[],by rw [hintents,List.append_nil]⟩
  · obtain ⟨-,rfl⟩ := Estate.ingest_eq he
    rw [hestate]
    exact List.subset_append_left _ _
  · obtain ⟨row',hr',-,hpoints'⟩ := kept_ingest he hestate key.1 row hr (row.pointed.mpr hpoints)
    exact ⟨row',hr',hpoints',(hinv'.owned _ _ hr').trans (hinv.owned _ _ hr).symm⟩

theorem founding_network {sweep : SweepId} {batch : Batch} {reported : List ReportedReading} {now : Instant} (hinv : Inv s)
    (h : Founding s) (hop : s.ingestNetwork sweep batch reported now = .ok s') : Founding s' := by
  obtain ⟨estate,he,hfold⟩ := Store.ingestNetwork_ok hop
  let u : Store := {s with
    estate := estate
    readings := s.readings ++ (Store.providerRows reported []).map fun r => (batch.hostId,r)}
  have hinv' : Inv u := inv_ingest hinv he rfl rfl rfl rfl
  exact founding_evaluateSeens hinv' (founding_ingest hinv h he hinv' rfl rfl rfl) hfold

/-- A new version leaves every finding grounded when it does so on the fields nobody could read. -/
theorem founding_enforced {new : IntentRow} (hinv : Inv s) (h : Founding s) (he : Enforced s s' id new)
    (hunread : ∀ c ∈ reconcile new.capability new.provider new.fields (s.estate.newest id), c.comparison = .unknown →
      (s.findings.current (id,c.intended.field)).isSome → Seen s.estate id c.intended) : Founding s' := by
  obtain ⟨row,hobjects,-,hactive⟩ := he.row
  obtain ⟨intentId,sweepId,now,names,hfold⟩ := he.compared
  have hmore : s.estate.observations ⊆ s'.estate.observations := by rw [he.observations]; exact List.Subset.refl _
  have hrow : s'.estate.objects id = some row := by rw [hobjects,Function.update_self]
  rw [← he.newest id] at hfold hunread
  refine founding_of_evaluated hrow hactive he.keys (fun field hfield => h.foreign hinv hfield)
    (fun c hc hcmp hopen => (hunread c hc hcmp hopen).mono hmore) (fun key x hother hx => ?_) hfold
  refine (h key x hx).mono hmore (fun row hr _ => ⟨row,?_,rfl,rfl⟩) ⟨[new],he.intents⟩
  rw [hobjects,Function.update_of_ne hother]
  exact hr

theorem founding_adopt {before : Store} {clock : Clock} {intentId : IntentId} {record : ObjectRecord} (hinv : Inv s)
    (h : Founding s) (hop : Store.adopt before s clock intentId record = .ok s') : Founding s' := by
  obtain ⟨row,o,hrow,hstate,ho,he⟩ := enforced_adopt hinv hop
  refine founding_enforced hinv h he fun c _ _ hopen => ?_
  -- nothing is open on an object that was not managed
  obtain ⟨x,hx⟩ := Option.isSome_iff_exists.mp hopen
  obtain ⟨row',intent,hrow',hactive,-⟩ := (h _ x hx).active
  obtain ⟨stored,-,hpoints,-⟩ := Store.activeFor_some hactive
  cases hrow.symm.trans hrow'
  have hmanaged := row.pointed.mpr (by rw [hpoints]; rfl)
  rw [hstate] at hmanaged
  cases hmanaged

section Revising

variable {before : Store} {clock : Clock} {intentId : IntentId} {record : ObjectRecord} {requested : List (String × Json)}
  {expected : IntentId} {expectedVersion : Option ℕ} {row : ObjectRow} {active : IntentRow} {o : Observation} {plan : RevisionPlan}

/-- What an accepted revision retains is what was drafted. -/
theorem drafted_of_revise (hrow : s.estate.objects record.row.objectId = some row) (hactive : s.activeFor row = some active)
    (ho : s.estate.newest record.row.objectId = some o) (hplan : planExplicitRevision active.fields requested = .ok plan)
    (hop : Store.revise before s clock intentId record (.explicit requested) expected expectedVersion = .ok s') :
    drafted before s clock intentId record requested expected expectedVersion = .ok (o,plan) := by
  simp only [Store.revise,bind_ok,orElse_ok] at hop
  obtain ⟨checked,hbefore,current,hget,⟨active',o'⟩,hverify,plan',hplan',s₁,hinsert,-⟩ := hop
  obtain ⟨hrow',hobs⟩ := Store.get_some hget
  obtain ⟨-,hactive',-,ho',-,-⟩ := Store.verifyRevisable_ok hverify
  cases hrow.symm.trans hrow'
  cases hactive.symm.trans hactive'
  cases ho.symm.trans (hobs.symm.trans ho')
  cases hplan.symm.trans hplan'
  simp only [drafted,bind_ok,orElse_ok]
  exact ⟨checked,hbefore,current,hget,(active,o),hverify,plan,hplan,s₁,hinsert,rfl⟩

/-- A revision is founded when what it asks of the fields nobody could read is. -/
theorem founding_revise {wanted : Wanted} (hinv : Inv s) (h : Founding s)
    (hop : Store.revise before s clock intentId record wanted expected expectedVersion = .ok s')
    (hupheld : ∀ requested, wanted = .explicit requested → ∀ draft,
      drafted before s clock intentId record requested expected expectedVersion = .ok draft →
        Upheld s record.row.objectId requested draft) : Founding s' := by
  obtain ⟨row,active,o,plan,hrow,hactive,ho,hplan,he⟩ := enforced_revise hinv hop
  refine founding_enforced hinv h he fun c hc hcmp hopen => ?_
  rw [ho] at hc
  have hmem : c.intended ∈ plan.fields := reconcile_mem hc
  have hunread : c.intended.reading o = none := (reconcile_unknown hc).mp hcmp
  cases wanted with
  | runtime =>
    rw [captured_reading (planRuntimeRevision_mem hplan hmem)] at hunread
    cases hunread
  | explicit requested =>
    rcases planExplicitRevision_mem hplan hmem with hcarried | hasked
    · obtain ⟨stored,hlast,-,hfields⟩ := hinv.last_of_active hrow hactive
      have hkeys := hinv.keys stored (Inv.intentsOf_mem (List.mem_of_getLast? hlast)).1
      exact h.seen hrow hactive (hfields ▸ hkeys) hcarried hopen
    · have hdraft := drafted_of_revise hrow hactive ho hplan hop
      refine hupheld requested rfl (o,plan) hdraft c.intended hmem hasked hunread ?_
      simpa [Episodes.current] using hopen

/-- Of the revisions by value that are accepted, exactly the upheld ones leave every finding founded. -/
theorem founded_revise_iff (hinv : Inv s) (h : Founding s)
    (hop : Store.revise before s clock intentId record (.explicit requested) expected expectedVersion = .ok s') :
    Founded s' ↔ ∀ draft, drafted before s clock intentId record requested expected expectedVersion = .ok draft →
      Upheld s record.row.objectId requested draft := by
  constructor
  · intro hfounded draft hdraft f hf _ hunread hopen
    obtain ⟨row,active,o,plan,hrow,hactive,ho,hplan,he⟩ := enforced_revise hinv hop
    cases (drafted_of_revise hrow hactive ho hplan hop).symm.trans hdraft
    obtain ⟨id₀,sweepId,now,names,hfold⟩ := he.compared
    rw [ho] at hfold
    obtain ⟨c,hc,rfl⟩ : ∃ c ∈ reconcile o.capability o.provider plan.fields (some o), c.intended = f := by
      rw [← List.mem_map,reconcile_intended]
      exact hf
    obtain ⟨-,hspares,hstates⟩ := (evaluateFields_ok (nodup_reconcile he.keys) hfold).2 c hc
    have hkept := hspares ((reconcile_unknown hc).mpr hunread)
    -- the finding that was open is open still, and states the value asked for
    obtain ⟨x,hx⟩ : ∃ x, s'.findings.current (record.row.objectId,c.intended.field) = some x := by
      rw [← Option.isSome_iff_exists,← Option.isSome_map (f:=Prod.fst),hkept,Option.isSome_map]
      simpa [Episodes.current] using hopen
    have hstated : x.2.intended = c.intended := hstates x hx
    obtain ⟨finding,hmem,hisOpen,hkey,rfl⟩ := Episodes.current_some.mp hx
    obtain ⟨-,hseen⟩ := hfounded finding hmem hisOpen
    rw [hkey,hstated] at hseen
    exact hseen.mono (by rw [he.observations]; exact List.Subset.refl _)
  · intro hupheld
    refine (founding_revise hinv h hop fun requested' hreq => ?_).founded
    cases hreq
    exact hupheld

end Revising

theorem founding_release {record : ObjectRecord} (h : Founding s) (hop : Store.release s record = .ok s') : Founding s' := by
  obtain ⟨row,intentId,hrow,hstate,hactive,heq⟩ := Store.release_ok hop
  have hcurrent : s'.findings.current = fun key => if key.1 = record.row.objectId then none else s.findings.current key := by
    rw [heq]
    exact (Episodes.current_foldl_resolve (fun key : ObjectId × String => key.1 = record.row.objectId) _).trans
      (funext fun key => by simp only [decide_eq_true_eq])
  intro key x hx
  rw [hcurrent] at hx
  by_cases hother : key.1 = record.row.objectId
  · simp [hother] at hx
  · refine (h key x (by simpa [hother] using hx)).mono (by rw [heq]; exact List.Subset.refl _) (fun r hr _ => ⟨r,?_,rfl,rfl⟩)
      ⟨[],by rw [heq,List.append_nil]; rfl⟩
    rw [heq]
    simpa [Store.recordTransition,Store.setObject,Function.update_of_ne hother] using hr

end Grounds

theorem founding_commit {c : State} {op : Operation} (hinv : Inv c.store) (h : Founding c.store) (hop : upheld c op) :
    Founding (commit c.store op) := by
  unfold commit
  split
  · next s' hrun =>
    cases op with
    | sweepNetwork sweep batch reported now => exact founding_network hinv h hrun
    | sweepOther kind sweep batch =>
      have hinv' := inv_commit hinv (.sweepOther kind sweep batch)
      rw [commit,hrun] at hinv'
      obtain ⟨estate,he,rfl⟩ := Store.ingestOther_ok hrun
      exact founding_ingest hinv h he hinv' rfl rfl rfl
    | adopt before clock intentId record => exact founding_adopt hinv h hrun
    | revise before clock intentId record wanted expected expectedVersion =>
      refine founding_revise hinv h hrun fun requested hreq draft hdraft => ?_
      subst hreq
      exact hop draft (by rw [hdraft]; rfl)
    | release record => exact founding_release h hrun
  · exact h

theorem open_findings_founded (c : State) (h : Machine.Reach machine upheld c) : Founded c.store := by
  let I : State → Prop := fun c => Inv c.store ∧ Founding c.store
  have hI : I c := by
    refine Machine.Reach.invariant (M:=machine) (I:=I) (fun c hc => ?_) (fun op c c' hI hop hs => ?_) h
    · obtain rfl : c = ⟨Store.empty,[]⟩ := hc
      exact ⟨(reached_inv (.start rfl)).1,fun key x hx => (nomatch hx)⟩
    · cases hs
      exact ⟨inv_commit hI.1 op,founding_commit hI.1 hI.2 hop⟩
  exact hI.2.founded

def eth0Unread (observedAt : Instant) : Batch :=
  ⟨"host","network.observe","linux.network","ok",[⟨some 7,"eth0","eth0",observedAt,
    [("name",.str "eth0"),("kind",.str "ethernet"),("admin_up",.bool true),("mtu",.null)]⟩]⟩

/-- A drift opened by a revision, no longer readable, and its field revised again. -/
def unreadRevision (mtu : Int) : List Operation :=
  let reviseNow (s : Store) (intentId : IntentId) (mtu : Int) (expected : IntentId) : Operation :=
    .revise s ⟨30,60⟩ intentId (eth0Record s) (.explicit [("mtu",.num mtu)]) expected none
  let o₀ : Operation := .sweepNetwork 0 (eth0Sweep 10 1500) [] 11
  let s₀ := commit Store.empty o₀
  let o₁ : Operation := .adopt s₀ ⟨30,60⟩ 100 (eth0Record s₀)
  let s₁ := commit s₀ o₁
  let o₂ := reviseNow s₁ 101 9000 100
  let s₂ := commit s₁ o₂
  let o₃ : Operation := .sweepNetwork 1 (eth0Unread 20) [] 21
  let s₃ := commit s₂ o₃
  [o₀,o₁,o₂,o₃,reviseNow s₃ 102 mtu 101]

/-- The finding is left open against a third value. -/
theorem open_findings_founded_of_third_value : ∃ c : State, (c.store.findings.rows.map fun f => (f.isOpen,f.evidence.intended.value)) =
    [(true,.int 1400)] ∧ Founded c.store := by
  obtain ⟨c,hc,hp⟩ := Machine.exists_of_play (M:=machine) (R:=upheld) (s:=⟨Store.empty,[]⟩) rfl (unreadRevision 1400)
    (fun c => decide ((c.store.findings.rows.map fun f => (f.isOpen,f.evidence.intended.value)) = [(true,.int 1400)])) (by decide +kernel)
  exact ⟨c,of_decide_eq_true hp,open_findings_founded c hc⟩

/-- Revised back to the only value that was ever read, the finding stays open against it. -/
theorem unread_revision_unfounded : ¬∀ c, Machine.Reach machine Machine.free c → Founded c.store := by
  intro hall
  obtain ⟨c,hc,hp⟩ := Machine.exists_of_play (M:=machine) (R:=Machine.free) (s:=⟨Store.empty,[]⟩) rfl (unreadRevision 1500)
    (fun c => decide (¬Founded c.store)) (by decide +kernel)
  exact of_decide_eq_true hp (hall c hc)
end Managed
end LocalPlane
