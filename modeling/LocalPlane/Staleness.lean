import LocalPlane.StoredPlan

/-!
# When a preview is stale, and why

A preview is stale when its operation cannot be planned any more or the fresh plan has
another digest. The digest is taken of the text of both documents and the reasons come from
comparing their sections as values, so the reasons are the sections that moved exactly when
no section moved between two texts of one value.
-/

set_option linter.dupNamespace false

namespace LocalPlane
namespace Planning

open LineProtocol (Json Fields)

def planDigestChanged : String := "plan_digest_changed"

def sectionNames : List String := sectionReasons.map Prod.fst
def sectionCodes : List String := sectionReasons.map Prod.snd

/-- The digest of a plan's text, written with its keys in order. -/
def textDigest (hash : Json → String) (p : RunPlan) (version : ℕ) : String :=
  planDigest (fun document => hash document.written) p version

/-- A section that the two documents write differently. -/
def Moved (was now : Fields) (name : String) : Prop := ¬(Json.get was name).SameText (Json.get now name)

instance (was now : Fields) (name : String) : Decidable (Moved was now name) :=
  inferInstanceAs (Decidable (¬(Json.get was name).SameText (Json.get now name)))

namespace PlanValidity

def Stale : PlanValidity → Prop
  | .current => False
  | .stale _ => True

def reasons : PlanValidity → List ValidityReason
  | .current => []
  | .stale reasons => reasons

def codes (v : PlanValidity) : List String := v.reasons.map ValidityReason.code

end PlanValidity

/-! The canonical form and the table of reasons -/

/-- Every section of the document is in the table; beside them stands only its version. -/
theorem canonical_covered (p : RunPlan) (version : ℕ) :
    ∀ field ∈ p.canonical version, field.1 = "digest_version" ∧ field.2 = .num version ∨ field.1 ∈ sectionNames := by
  intro field hf
  simp only [RunPlan.canonical,List.mem_append,List.mem_cons,List.not_mem_nil,or_false] at hf
  rcases hf with ((hf | hf) | hf) | hf
  · rcases hf with rfl | rfl | rfl | rfl | rfl | rfl | rfl | rfl | rfl | rfl | rfl | rfl
    · exact .inl ⟨rfl,rfl⟩
    all_goals exact .inr (by simp [sectionNames,sectionReasons])
  · split at hf
    · rw [List.mem_singleton.mp hf]
      exact .inr (by simp [sectionNames,sectionReasons])
    · simp at hf
  · split at hf
    · rcases List.mem_pair.mp hf with rfl | rfl <;> exact .inr (by simp [sectionNames,sectionReasons])
    · simp at hf
  · split at hf
    · rw [List.mem_singleton.mp hf]
      exact .inr (by simp [sectionNames,sectionReasons])
    · simp at hf

/-- Documents of one version have the same sections. -/
theorem canonical_names (p q : RunPlan) (version : ℕ) :
    (p.canonical version).map Prod.fst = (q.canonical version).map Prod.fst := by
  unfold RunPlan.canonical
  by_cases h₃ : 3 ≤ version <;> by_cases h₄ : 4 ≤ version <;> by_cases h₆ : 6 ≤ version <;> simp [h₃,h₄,h₆]

theorem canonical_nodup (p : RunPlan) (version : ℕ) : ((p.canonical version).map Prod.fst).Nodup := by
  unfold RunPlan.canonical
  by_cases h₃ : 3 ≤ version <;> by_cases h₄ : 4 ≤ version <;> by_cases h₆ : 6 ≤ version <;> simp [h₃,h₄,h₆]

theorem get_of_mem {fields : Fields} (hn : (fields.map Prod.fst).Nodup) {field : String × Json} (hf : field ∈ fields) :
    Json.get fields field.1 = field.2 := by
  induction fields with
  | nil => cases hf
  | cons first rest ih =>
    obtain ⟨name,value⟩ := first
    rw [List.map_cons,List.nodup_cons] at hn
    cases hf with
    | head => simp [Json.get]
    | tail _ hrest =>
      have hmem : field.1 ∈ rest.map Prod.fst := List.mem_map_of_mem hrest
      have hne : field.1 ≠ name := fun he => hn.1 (he ▸ hmem)
      have hget := ih hn.2 hrest
      simpa [Json.get,List.lookup_cons,beq_eq_false_iff_ne.mpr hne] using hget

/-- Documents none of whose sections moved are written the same. -/
theorem sameText_of_unmoved {p q : RunPlan} {version : ℕ}
    (h : ∀ name ∈ sectionNames, ¬Moved (p.canonical version) (q.canonical version) name) :
    (Json.obj (p.canonical version)).SameText (.obj (q.canonical version)) := by
  apply Json.sameText_obj
  have hkeys := canonical_names p q version
  have hlength : (p.canonical version).length = (q.canonical version).length := by
    simpa using congrArg List.length hkeys
  refine List.forall₂_iff_get.mpr ⟨hlength,fun i hi hi' => ?_⟩
  have hkey : ((p.canonical version).get ⟨i,hi⟩).1 = ((q.canonical version).get ⟨i,hi'⟩).1 := by
    have hget := congrArg (fun l => l[i]?) hkeys
    simpa [hi,hi'] using hget
  refine ⟨hkey,?_⟩
  have hp := get_of_mem (canonical_nodup p version) (List.get_mem _ ⟨i,hi⟩)
  have hq := get_of_mem (canonical_nodup q version) (List.get_mem _ ⟨i,hi'⟩)
  rcases canonical_covered p version _ (List.get_mem _ ⟨i,hi⟩) with ⟨hname,hvalue⟩ | hname
  · -- the version a document states is the one it is rendered under
    rcases canonical_covered q version _ (List.get_mem _ ⟨i,hi'⟩) with ⟨_,hvalue'⟩ | hname'
    · rw [hvalue,hvalue']
      rfl
    · rw [← hkey,hname] at hname'
      exact absurd hname' (by decide)
  · have hsame := not_not.mp (h _ hname)
    rw [hp,hkey,hq] at hsame
    exact hsame

/-! The judgement -/

/-- What a table entry makes of the two documents. -/
theorem mem_sectionsChanged {was now : Fields} {r : ValidityReason} : r ∈ sectionsChanged was now ↔
    ∃ name code before, (name,code) ∈ sectionReasons ∧ was.lookup name = some before ∧
      before.equals (Json.get now name) = false ∧ r = ⟨code,[("was",before),("now",Json.get now name)]⟩ := by
  unfold sectionsChanged
  rw [List.mem_filterMap]
  constructor
  · rintro ⟨⟨name,code⟩,hmem,hr⟩
    cases hl : was.lookup name with
    | none => simp [hl] at hr
    | some before =>
      cases he : before.equals (Json.get now name) with
      | true => simp [hl,he] at hr
      | false =>
        simp only [hl,he,Bool.false_eq_true,if_false,Option.some.injEq] at hr
        exact ⟨name,code,before,hmem,hl,he,hr.symm⟩
  · rintro ⟨name,code,before,hmem,hl,he,rfl⟩
    exact ⟨(name,code),hmem,by simp [hl,he]⟩

/-- One code names one section. -/
theorem section_of_code {name name' code : String} (h : (name,code) ∈ sectionReasons) (h' : (name',code) ∈ sectionReasons) :
    name = name' := by
  have hapart : ∀ e ∈ sectionReasons, ∀ e' ∈ sectionReasons, e.2 = e'.2 → e.1 = e'.1 := by decide
  exact hapart _ h _ h' rfl

/-- Sections that are equal as values are written the same. -/
def SpelledAlike (was now : Fields) : Prop :=
  ∀ name ∈ sectionNames, (Json.get was name).equals (Json.get now name) = true → ¬Moved was now name

instance (was now : Fields) : Decidable (SpelledAlike was now) := List.decidableBAll _ _

/-- What the reasons of a stale preview have to say about the two documents. -/
structure Explained (was now : Fields) (ownDigest publishedDigest : String) (codes : List String) : Prop where
  told : codes ≠ []
  exactly : ∀ name code, (name,code) ∈ sectionReasons → (code ∈ codes ↔ Moved was now name)
  known : ∀ code ∈ codes, code ∈ sectionCodes ∨ code = planDigestChanged
  catchAll : planDigestChanged ∈ codes → publishedDigest ≠ ownDigest

theorem lookup_canonical {p : RunPlan} {version : ℕ} {name : String}
    (h : (p.canonical version).lookup name = none) (q : RunPlan) : (q.canonical version).lookup name = none := by
  rw [List.lookup_eq_none_iff] at h ⊢
  intro field hf
  have hname : field.1 ∈ (p.canonical version).map Prod.fst := by
    rw [canonical_names p q]
    exact List.mem_map_of_mem hf
  obtain ⟨other,ho,he⟩ := List.mem_map.mp hname
  rw [← he]
  exact h other ho

/-- A section is among the reasons exactly when the two documents hold different values for it. -/
theorem code_mem_sectionsChanged {p q : RunPlan} {version : ℕ} {name code : String} (hmem : (name,code) ∈ sectionReasons) :
    code ∈ (sectionsChanged (p.canonical version) (q.canonical version)).map ValidityReason.code ↔
      (Json.get (p.canonical version) name).equals (Json.get (q.canonical version) name) = false := by
  rw [List.mem_map]
  constructor
  · rintro ⟨r,hr,hcode⟩
    obtain ⟨name',code',before,hmem',hl,he,rfl⟩ := mem_sectionsChanged.mp hr
    obtain rfl : code' = code := hcode
    obtain rfl := section_of_code hmem hmem'
    rw [Json.get,hl]
    exact he
  · intro he
    cases hl : (p.canonical version).lookup name with
    | none =>
      have hnull : (Json.get (p.canonical version) name) = Json.get (q.canonical version) name := by
        rw [Json.get,Json.get,hl,lookup_canonical hl q]
      rw [hnull,Json.equals_self] at he
      cases he
    | some before =>
      have hbefore : Json.get (p.canonical version) name = before := by rw [Json.get,hl]; rfl
      exact ⟨_,mem_sectionsChanged.mpr ⟨name,code,before,hmem,hl,hbefore ▸ he,rfl⟩,rfl⟩

theorem code_known {was now : Fields} {code : String} (h : code ∈ (sectionsChanged was now).map ValidityReason.code) :
    code ∈ sectionCodes := by
  obtain ⟨r,hr,rfl⟩ := List.mem_map.mp h
  obtain ⟨name,code,before,hmem,_,_,rfl⟩ := mem_sectionsChanged.mp hr
  exact List.mem_map.mpr ⟨_,hmem,rfl⟩

theorem planDigestChanged_apart : planDigestChanged ∉ sectionCodes := by decide

/-- A section that moved to another value is a reason; one that did not move never is. -/
theorem moved_of_code {p q : RunPlan} {version : ℕ} {name code : String} (hmem : (name,code) ∈ sectionReasons)
    (h : code ∈ (sectionsChanged (p.canonical version) (q.canonical version)).map ValidityReason.code) :
    Moved (p.canonical version) (q.canonical version) name := by
  intro hsame
  have he := (code_mem_sectionsChanged hmem).mp h
  rw [Json.equals_of_sameText hsame] at he
  cases he

section Judgement

variable {hash : Json → String} {published replanned : RunPlan} {publishedDigest : String} {version : ℕ}

/-- The judgement of a published plan against what planning it again came to. -/
def judged (hash : Json → String) (published : RunPlan) (publishedDigest : String) (version : ℕ)
    (replanned : Replanned) : PlanValidity :=
  assessValidity (fun document => hash document.written) published publishedDigest version replanned

theorem judged_plan (fresh : RunPlan) : judged hash published publishedDigest version (.plan fresh) =
    if textDigest hash fresh version = publishedDigest then .current
    else if (sectionsChanged (published.canonical version) (fresh.canonical version)).isEmpty then
      .stale [⟨planDigestChanged,[("published",.str publishedDigest),("current",.str (textDigest hash fresh version))]⟩]
    else .stale (sectionsChanged (published.canonical version) (fresh.canonical version)) := rfl

theorem judged_stale {replanned : Replanned} : (judged hash published publishedDigest version replanned).Stale ↔
    match replanned with
    | .refused _ _ => True
    | .plan fresh => textDigest hash fresh version ≠ publishedDigest := by
  cases replanned with
  | refused code detail => exact iff_of_true trivial trivial
  | plan fresh =>
    rw [judged_plan]
    by_cases hd : textDigest hash fresh version = publishedDigest
    · rw [if_pos hd]
      exact iff_of_false not_false fun h => h hd
    · rw [if_neg hd]
      refine iff_of_true ?_ hd
      split <;> trivial

theorem judged_codes (hd : textDigest hash replanned version ≠ publishedDigest) :
    (judged hash published publishedDigest version (.plan replanned)).codes =
      if sectionsChanged (published.canonical version) (replanned.canonical version) = [] then [planDigestChanged]
      else (sectionsChanged (published.canonical version) (replanned.canonical version)).map ValidityReason.code := by
  rw [judged_plan,if_neg hd]
  by_cases hs : sectionsChanged (published.canonical version) (replanned.canonical version) = []
  · simp [hs,PlanValidity.codes,PlanValidity.reasons]
  · simp [hs,PlanValidity.codes,PlanValidity.reasons]

/-- Plans whose documents are written the same have one digest. -/
theorem textDigest_eq (h : (Json.obj (published.canonical version)).SameText (.obj (replanned.canonical version))) :
    textDigest hash published version = textDigest hash replanned version := congrArg hash h

/-- The reasons given are the sections that moved exactly when no section moved between two texts of
one value. -/
theorem explained_iff (hd : textDigest hash replanned version ≠ publishedDigest) :
    Explained (published.canonical version) (replanned.canonical version) (textDigest hash published version)
      publishedDigest (judged hash published publishedDigest version (.plan replanned)).codes ↔
    SpelledAlike (published.canonical version) (replanned.canonical version) := by
  rw [judged_codes hd]
  constructor
  · intro h name hname hequal hmoved
    obtain ⟨⟨name,code⟩,hmem,rfl⟩ := List.mem_map.mp hname
    have hcode := (h.exactly name code hmem).mpr hmoved
    split at hcode
    · rw [List.mem_singleton.mp hcode] at hmem
      exact planDigestChanged_apart (List.mem_map.mpr ⟨_,hmem,rfl⟩)
    · rw [code_mem_sectionsChanged hmem,hequal] at hcode
      cases hcode
  · intro h
    by_cases hs : sectionsChanged (published.canonical version) (replanned.canonical version) = []
    · rw [if_pos hs]
      have hunmoved : ∀ name ∈ sectionNames, ¬Moved (published.canonical version) (replanned.canonical version) name := by
        intro name hname
        obtain ⟨⟨name,code⟩,hmem,rfl⟩ := List.mem_map.mp hname
        apply h name hname
        by_contra hne
        have hcode := (code_mem_sectionsChanged hmem).mpr (Bool.not_eq_true _ ▸ hne)
        rw [hs] at hcode
        cases hcode
      refine ⟨by simp,fun name code hmem => iff_of_false ?_ (hunmoved name (List.mem_map.mpr ⟨_,hmem,rfl⟩)),
        fun code hc => .inr (List.mem_singleton.mp hc),fun _ he => ?_⟩
      · intro hc
        rw [List.mem_singleton.mp hc] at hmem
        exact planDigestChanged_apart (List.mem_map.mpr ⟨_,hmem,rfl⟩)
      · rw [textDigest_eq (sameText_of_unmoved hunmoved)] at he
        exact hd he.symm
    · rw [if_neg hs]
      refine ⟨by simpa using hs,fun name code hmem => ⟨moved_of_code hmem,fun hmoved => ?_⟩,
        fun code hc => .inl (code_known hc),fun hc => absurd (code_known hc) planDigestChanged_apart⟩
      rw [code_mem_sectionsChanged hmem,Bool.eq_false_iff]
      exact fun hequal => h name (List.mem_map.mpr ⟨_,hmem,rfl⟩) hequal hmoved

/-- What is asked of the judgement: it is stale for the right reason, and a stale one is explained. -/
structure ExactlyStale (hash : Json → String) (published : RunPlan) (publishedDigest : String) (version : ℕ)
    (replanned : Replanned) : Prop where
  stale : (judged hash published publishedDigest version replanned).Stale ↔
    match replanned with
    | .refused _ _ => True
    | .plan fresh => textDigest hash fresh version ≠ publishedDigest
  refusal : ∀ code detail, replanned = .refused code detail →
    (judged hash published publishedDigest version replanned).reasons = [⟨code,detail⟩]
  explained : ∀ fresh, replanned = .plan fresh → (judged hash published publishedDigest version replanned).Stale →
    Explained (published.canonical version) (fresh.canonical version) (textDigest hash published version)
      publishedDigest (judged hash published publishedDigest version replanned).codes
  covered : ∀ field ∈ published.canonical version,
    field.1 = "digest_version" ∧ field.2 = .num version ∨ field.1 ∈ sectionNames

end Judgement

def canStart (answer : Json) : RunPlan :=
  RunPlan.restartOf { RunPlan.observedEdges [] with targetFacts := [("can_start",answer)] }

/-- One digest for the documents with the published lifecycle context, and another for everything else. -/
def tellingHash : Json → String
  | .obj fields =>
    if Json.get fields "lifecycle_context" = (Json.get ((canStart (.bool true)).canonical planDigestVersion) "lifecycle_context").written
    then "sha256:1f" else "sha256:2e"
  | _ => "sha256:2e"

end Planning
end LocalPlane
