import Mathlib.Data.List.Count
import Mathlib.Data.List.Nodup
import Mathlib.Data.Set.Function

/-!
# What is declared by one declarer alone

Declarers and the values each of them declares, matched with the values that are present. A
value is declared alone when it occurs once among all declarations. Values are compared and
nothing else, so renaming them apart from each other changes nothing.
-/

set_option linter.dupNamespace false

namespace LocalPlane
namespace Declarations

variable {ι κ α β : Type} [DecidableEq α] [DecidableEq β]

/-- The one member of a list with a property. -/
def Only (l : List ι) (P : ι → Prop) (n : ι) : Prop := n ∈ l ∧ P n ∧ ∀ m ∈ l, P m → m = n

variable (declares : ι → List α) (l : List ι) (present : List α)

/-- The declarations of values that are present. -/
def among : List (ι × α) := l.flatMap fun n => ((declares n).filter (· ∈ present)).map fun v => (n,v)

/-- The declarations of present values that are made once. -/
def alone : List (ι × α) := (among declares l present).filter fun p => (l.flatMap declares).count p.2 = 1

variable {declares l present}

@[simp] theorem mem_among {p : ι × α} : p ∈ among declares l present ↔ p.1 ∈ l ∧ p.2 ∈ declares p.1 ∧ p.2 ∈ present := by
  obtain ⟨n,v⟩ := p
  simp only [among,List.mem_flatMap,List.mem_map,List.mem_filter,decide_eq_true_eq,Prod.mk.injEq]
  constructor
  · rintro ⟨m,hm,w,⟨hw,hpresent⟩,rfl,rfl⟩
    exact ⟨hm,hw,hpresent⟩
  · rintro ⟨hm,hw,hpresent⟩
    exact ⟨n,hm,v,⟨hw,hpresent⟩,rfl,rfl⟩

/-- Where nobody declares a value twice, its declarations count its declarers. -/
theorem count_declared (hn : ∀ n ∈ l, (declares n).Nodup) (v : α) :
    (l.flatMap declares).count v = l.countP fun n => v ∈ declares n := by
  induction l with
  | nil => rfl
  | cons n rest ih =>
    have hrest := ih fun m hm => hn m (List.mem_cons_of_mem _ hm)
    have hown := (hn n List.mem_cons_self).count (a := v)
    rw [List.flatMap_cons,List.count_append,hrest,hown,List.countP_cons,Nat.add_comm]
    by_cases hv : v ∈ declares n <;> simp [hv]

/-- A value is declared once exactly when one declarer alone has it. -/
theorem count_declared_eq_one (hl : l.Nodup) (hn : ∀ n ∈ l, (declares n).Nodup) {n : ι} {v : α} (hm : n ∈ l) (hv : v ∈ declares n) :
    (l.flatMap declares).count v = 1 ↔ ∀ m ∈ l, v ∈ declares m → m = n := by
  have hfilter : n ∈ l.filter fun n => v ∈ declares n := List.mem_filter.mpr ⟨hm,decide_eq_true hv⟩
  rw [count_declared hn,List.countP_eq_length_filter,List.length_eq_one_iff]
  constructor
  · rintro ⟨a,ha⟩ m hml hmv
    have hma : m ∈ l.filter fun n => v ∈ declares n := List.mem_filter.mpr ⟨hml,decide_eq_true hmv⟩
    rw [ha,List.mem_singleton] at hfilter hma
    rw [hma,hfilter]
  · intro h
    have hall : ∀ m ∈ l.filter fun n => v ∈ declares n, m = n := fun m hmf => by
      obtain ⟨hml,hmv⟩ := List.mem_filter.mp hmf
      exact h m hml (of_decide_eq_true hmv)
    have hcount := (hl.filter fun n => v ∈ declares n)
    rw [List.eq_replicate_of_mem hall] at hcount hfilter ⊢
    have hlength := List.nodup_replicate.mp hcount
    have hpositive : (l.filter fun n => v ∈ declares n).length ≠ 0 := by
      intro h0
      rw [h0] at hfilter
      exact List.not_mem_nil hfilter
    exact ⟨n,by rw [show (l.filter fun n => v ∈ declares n).length = 1 by omega]; rfl⟩

theorem mem_alone (hl : l.Nodup) (hn : ∀ n ∈ l, (declares n).Nodup) {p : ι × α} :
    p ∈ alone declares l present ↔
      p.1 ∈ l ∧ p.2 ∈ declares p.1 ∧ p.2 ∈ present ∧ ∀ m ∈ l, p.2 ∈ declares m → m = p.1 := by
  rw [alone,List.mem_filter,mem_among,decide_eq_true_eq]
  constructor
  · rintro ⟨⟨hm,hv,hpresent⟩,hcount⟩
    exact ⟨hm,hv,hpresent,(count_declared_eq_one hl hn hm hv).mp hcount⟩
  · rintro ⟨hm,hv,hpresent,hapart⟩
    exact ⟨⟨hm,hv,hpresent⟩,(count_declared_eq_one hl hn hm hv).mpr hapart⟩

section Renaming

variable {h : ι → κ} {f : α → β} {declares' : κ → List β}

omit [DecidableEq α] [DecidableEq β] in
theorem mem_map_iff_of_injOn {values : List α} {s : Set α} (hf : s.InjOn f) (hs : ∀ v ∈ values, v ∈ s) {v : α} (hv : v ∈ s) :
    f v ∈ values.map f ↔ v ∈ values := by
  constructor
  · intro hm
    obtain ⟨w,hw,he⟩ := List.mem_map.mp hm
    exact hf (hs w hw) hv he ▸ hw
  · exact List.mem_map_of_mem

/-- Renaming declarers, and values apart from each other, renames the declarations of what is present. -/
theorem among_map (hd : ∀ n ∈ l, declares' (h n) = (declares n).map f) {s : Set α} (hf : s.InjOn f)
    (hdeclared : ∀ n ∈ l, ∀ v ∈ declares n, v ∈ s) (hpresent : ∀ v ∈ present, v ∈ s) :
    among declares' (l.map h) (present.map f) = (among declares l present).map (Prod.map h f) := by
  unfold among
  rw [List.flatMap_map,List.map_flatMap]
  apply List.flatMap_congr
  intro n hn
  rw [hd n hn,List.filter_map,List.map_map,List.map_map]
  have hfilter : (declares n).filter ((fun w => decide (w ∈ present.map f)) ∘ f) = (declares n).filter (· ∈ present) := by
    apply List.filter_congr
    intro v hv
    exact decide_eq_decide.mpr (mem_map_iff_of_injOn hf hpresent (hdeclared n hn v hv))
  rw [hfilter]
  rfl

theorem alone_map (hd : ∀ n ∈ l, declares' (h n) = (declares n).map f) {s : Set α} (hf : s.InjOn f)
    (hdeclared : ∀ n ∈ l, ∀ v ∈ declares n, v ∈ s) (hpresent : ∀ v ∈ present, v ∈ s) :
    alone declares' (l.map h) (present.map f) = (alone declares l present).map (Prod.map h f) := by
  have hall : (l.map h).flatMap declares' = (l.flatMap declares).map f := by
    rw [List.flatMap_map,List.map_flatMap]
    exact List.flatMap_congr fun n hn => hd n hn
  unfold alone
  rw [among_map hd hf hdeclared hpresent,List.filter_map,hall]
  congr 1
  apply List.filter_congr
  rintro ⟨n,v⟩ hp
  obtain ⟨hn,hv,-⟩ := mem_among.mp hp
  have hcount : ((l.flatMap declares).map f).count (f v) = (l.flatMap declares).count v := by
    rw [List.count,List.countP_map,List.count]
    apply List.countP_congr
    intro w hw
    obtain ⟨m,hm,hwm⟩ := List.mem_flatMap.mp hw
    simpa using (hf.eq_iff (hdeclared m hm w hwm) (hdeclared n hn v hv))
  exact decide_eq_decide.mpr (by rw [Prod.map_snd,hcount])

end Renaming

end Declarations
end LocalPlane
