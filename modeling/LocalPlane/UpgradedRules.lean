import LocalPlane.Upgrades

/-!
# The rules of an old schema in the current one

A trigger keeps its name, and what it refused is refused: three conditions were rewritten on the
way, two of them to refuse more. The third has since asked nothing of a run whose preview names no
intent. A key stays a key, but that a run has one confirmation became that it has one to apply.
-/

set_option linter.dupNamespace false

namespace LocalPlane
namespace Sql

variable {T C N : Type} [DecidableEq T] [DecidableEq C]

/-- Whatever a trigger refuses under a condition, another one refuses as well. -/
structure Trigger.KeptBy (read : String → String → Cell) (under : Content T C → Scope C → Prop) (g g' : Trigger T C) :
    Prop where
  insert : ∀ t,g.onInsert t = true → g'.onInsert t = true
  update : ∀ t columns,g.onUpdate t columns = true → g'.onUpdate t columns = true
  delete : ∀ t,g.onDelete t = true → g'.onDelete t = true
  fires : ∀ content scope,under content scope → g.fires read content scope = true → g'.fires read content scope = true

theorem Trigger.keptBy_self (read : String → String → Cell) (under : Content T C → Scope C → Prop) (g : Trigger T C) :
    g.KeptBy read under g := ⟨fun _ h => h,fun _ _ h => h,fun _ h => h,fun _ _ _ h => h⟩

omit [DecidableEq T] [DecidableEq C] in
/-- Fewer rows meet a narrower condition, so that a trigger for want of a row fires more often. -/
theorem Trigger.fires_not_any {read : String → String → Cell} {content : Content T C} {scope : Scope C} {g g' : Trigger T C}
    {t : T} {c c' : Condition (Source × C)} (hg : g.condition = .not (.any t c)) (hg' : g'.condition = .not (.any t c'))
    (hc : ∀ row,c'.eval read (scope.row row row) = some true → c.eval read (scope.row row row) = some true)
    (h : g.fires read content scope = true) : g'.fires read content scope = true := by
  simp only [Trigger.fires,hg,hg',When.eval,Truth.not,Option.map_some,decide_eq_true_eq,Option.some.injEq,
    Bool.not_eq_true',List.any_eq_false] at h ⊢
  intro row hrow hmeets
  exact h row hrow (hc row hmeets)

end Sql

namespace Migrations

open Sql

/-- The three conditions that were rewritten. -/
def rewritten : List (Name × Trigger Table Column) :=
  [(.runsIntentBelongsToObject,WriteBoundary.runsIntentBelongsToObject),
    (.changesIdentityIsImmutable,WriteBoundary.changesIdentityIsImmutable),
    (.changesRequireAConsumedConfirmation,WriteBoundary.changesRequireAConsumedConfirmation)]

def triggersStay (version : ℕ) : Bool := (schemaAt version).triggers.all fun e =>
  e ∈ currentSchema.triggers || e ∈ rewritten

/-- One confirmation of a run. -/
def oneConfirmation : Key Column := ([.runId],none)
def oneApplyConfirmation : Key Column := ([.runId],some (.equals .purpose "apply"))

def keysStay (version : ℕ) : Bool := (schemaAt version).tables.all fun e => ((schemaAt version).keys e.1).all fun k =>
  k ∈ currentSchema.keys e.1 || (e.1 = .runConfirmations && k = oneConfirmation)

theorem triggers_stay : versions.all triggersStay = true := by decide +kernel
theorem keys_stay : versions.all keysStay = true := by decide +kernel

/-- The preview of a new run names an intent; in the seventh version every preview did. -/
def NamesIntent (content : Content Table Column) (scope : Scope Column) : Prop := ∃ preview ∈ content .runPreviews,
  (preview .previewId).eq (scope.new .previewId) = some true ∧ preview .intentId ≠ .null

def Bound (n : Name) (content : Content Table Column) (scope : Scope Column) : Prop :=
  n = .runsIntentBelongsToObject → NamesIntent content scope

section Rewritten

variable {read : String → String → Cell}

theorem runsIntent_kept : WriteBoundary.runsIntentBelongsToObject.KeptBy read (Bound .runsIntentBelongsToObject)
    Docker.runsIntentBelongsToObject where
  insert := fun _ h => h
  update := fun _ _ h => h
  delete := fun _ h => h
  fires := by
    intro content scope hbound h
    obtain ⟨preview,hpreview,hid,hintent⟩ := hbound rfl
    have hnamed : (When.any Table.runPreviews (.and (.agree (first .previewId) (new .previewId))
        (.present (first .intentId)))).eval read content scope = some true := by
      simp only [When.eval,Option.some.injEq,List.any_eq_true,decide_eq_true_eq]
      refine ⟨preview,hpreview,?_⟩
      simp [Condition.eval,Condition.agree,Condition.present,Condition.isNotNull,Term.eval,Scope.row,first,new,hid,hintent,
        Truth.and_eq_true,Truth.not]
    simp only [Trigger.fires,decide_eq_true_eq] at h ⊢
    exact Truth.and_eq_true.mpr ⟨hnamed,h⟩

theorem changesIdentity_kept (under : Content Table Column → Scope Column → Prop) :
    WriteBoundary.changesIdentityIsImmutable.KeptBy read under Docker.changesIdentityIsImmutable where
  insert := fun _ h => h
  update := by
    intro t columns h
    simp only [Trigger.onUpdate,WriteBoundary.changesIdentityIsImmutable,Docker.changesIdentityIsImmutable,
      Bool.and_eq_true,decide_eq_true_eq,Bool.or_eq_true,List.any_eq_true] at h ⊢
    obtain ⟨ht,hempty | ⟨c,hc,hset⟩⟩ := h
    · contradiction
    · exact ⟨ht,.inr ⟨c,List.Sublist.mem hc (by decide),hset⟩⟩
  delete := fun _ h => h
  fires := fun _ _ _ h => h

theorem changesRequire_kept (under : Content Table Column → Scope Column → Prop) :
    WriteBoundary.changesRequireAConsumedConfirmation.KeptBy read under Recovery.changesRequireAConsumedConfirmation where
  insert := fun _ h => h
  update := fun _ _ h => h
  delete := fun _ h => h
  fires := by
    intro content scope _ h
    refine Trigger.fires_not_any rfl rfl ?_ h
    intro row hmeets
    simp only [Condition.all,List.foldl_cons,List.foldl_nil,Condition.eval,Truth.and_eq_true] at hmeets ⊢
    exact ⟨hmeets.1.1,hmeets.2⟩

end Rewritten

section Rules

variable {read : String → String → Cell} {version : ℕ}

theorem trigger_kept (hfrom : 7 ≤ version) (hto : version ≤ 15) {n : Name} {g : Trigger Table Column}
    (hg : (n,g) ∈ (schemaAt version).triggers) :
    ∃ g',(n,g') ∈ currentSchema.triggers ∧ g.KeptBy read (Bound n) g' := by
  have hall := List.all_eq_true.mp triggers_stay version (mem_versions hfrom hto)
  have hstays := List.all_eq_true.mp hall (n,g) hg
  simp only [Bool.or_eq_true,decide_eq_true_eq] at hstays
  rcases hstays with hsame | hrewritten
  · exact ⟨g,hsame,Trigger.keptBy_self read (Bound n) g⟩
  · simp only [rewritten,List.mem_cons,Prod.mk.injEq,List.not_mem_nil,or_false] at hrewritten
    rcases hrewritten with ⟨rfl,rfl⟩ | ⟨rfl,rfl⟩ | ⟨rfl,rfl⟩
    · exact ⟨Docker.runsIntentBelongsToObject,by decide,runsIntent_kept⟩
    · exact ⟨Docker.changesIdentityIsImmutable,by decide,changesIdentity_kept _⟩
    · exact ⟨Recovery.changesRequireAConsumedConfirmation,by decide,changesRequire_kept _⟩

theorem key_kept (hfrom : 7 ≤ version) (hto : version ≤ 15) {t : Table} {d : TableDef Table Column}
    (hd : (schemaAt version).table? t = some d) {k : Key Column} (hk : k ∈ (schemaAt version).keys t) :
    k ∈ currentSchema.keys t ∨
      (t = .runConfirmations ∧ k = oneConfirmation ∧ oneApplyConfirmation ∈ currentSchema.keys .runConfirmations) := by
  have hall := List.all_eq_true.mp keys_stay version (mem_versions hfrom hto)
  have hkeys := List.all_eq_true.mp hall (t,d) (Schema.mem_tables hd)
  have hstays := List.all_eq_true.mp hkeys k hk
  simp only [Bool.or_eq_true,Bool.and_eq_true,decide_eq_true_eq] at hstays
  refine hstays.imp_right ?_
  rintro ⟨ht,hone⟩
  exact ⟨ht,hone,by decide⟩

end Rules

end Migrations
end LocalPlane
