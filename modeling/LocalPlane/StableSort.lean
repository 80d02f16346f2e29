import Mathlib.Data.List.Sort
import Mathlib.Order.Lex

/-!
# Sorting by a key

A stable sort forgets the order a collection was built in exactly when records that
share a key are the same record. Ties keep the order they came in.
-/

set_option linter.dupNamespace false

namespace LocalPlane

variable {α κ : Type} [LinearOrder κ]

def sortBy (key : α → κ) (l : List α) : List α := l.insertionSort fun a b => key a ≤ key b

namespace SortBy

variable {key : α → κ}

theorem perm (l : List α) : (sortBy key l).Perm l := List.perm_insertionSort ..

theorem mem {l : List α} {a : α} : a ∈ sortBy key l ↔ a ∈ l := (perm l).mem_iff

theorem sorted (l : List α) : (sortBy key l).Pairwise fun a b => key a ≤ key b :=
  have : Std.Total fun a b : α => key a ≤ key b := ⟨fun a b => le_total (key a) (key b)⟩
  have : IsTrans α fun a b => key a ≤ key b := ⟨fun _ _ _ => le_trans⟩
  List.pairwise_insertionSort _ l

/-- Sorting what is sorted changes nothing. -/
theorem idem (l : List α) : sortBy key (sortBy key l) = sortBy key l := (sorted l).insertionSort_eq

/-- The keys come out in one order, whatever order the records were in. -/
theorem keys {l l' : List α} (h : l.Perm l') : (sortBy key l).map key = (sortBy key l').map key := by
  have hsorted (l : List α) : ((sortBy key l).map key).Pairwise (· ≤ ·) := (sorted l).map key fun _ _ h => h
  have hperm : ((sortBy key l).map key).Perm ((sortBy key l').map key) :=
    (((perm l).trans h).trans (perm l').symm).map key
  exact List.Perm.eq_of_pairwise (fun a b _ _ => le_antisymm) (hsorted l) (hsorted l') hperm

/-- The records of one key keep the order they came in. -/
theorem stable (l : List α) (k : κ) :
    (sortBy key l).filter (fun a => decide (key a = k)) = l.filter fun a => decide (key a = k) := by
  have hties : (l.filter fun a => decide (key a = k)).Pairwise fun a b => key a ≤ key b := by
    refine List.Pairwise.imp_of_mem (R := fun _ _ => True) (fun {a b} ha hb _ => ?_) (List.pairwise_of_forall fun _ _ => trivial)
    have hka : key a = k := by simpa using (List.mem_filter.mp ha).2
    have hkb : key b = k := by simpa using (List.mem_filter.mp hb).2
    exact (hka.trans hkb.symm).le
  have hsub := (List.sublist_insertionSort hties List.filter_sublist).filter fun a => decide (key a = k)
  rw [List.filter_filter] at hsub
  simp only [Bool.and_self] at hsub
  exact (hsub.eq_of_length ((perm l).filter _).length_eq.symm).symm

/-- Records that share a key only with themselves come out in one order. -/
theorem eq_of_perm {l l' : List α} (h : l.Perm l') (hl : ∀ a ∈ l, ∀ b ∈ l, key a = key b → a = b) :
    sortBy key l = sortBy key l' := by
  refine List.Perm.eq_of_pairwise (fun a b ha hb hab hba => ?_) (sorted l) (sorted l')
    (((perm l).trans h).trans (perm l').symm)
  exact hl a (mem.mp ha) b (h.mem_iff.mpr (mem.mp hb)) (le_antisymm hab hba)

end SortBy

/-- A list of names in one order. -/
def sorted [LinearOrder α] (l : List α) : List α := sortBy id l

theorem sorted_perm [LinearOrder α] {l l' : List α} (h : l.Perm l') : sorted l = sorted l' :=
  SortBy.eq_of_perm h fun _ _ _ _ => id

@[simp] theorem sorted_sorted [LinearOrder α] (l : List α) : sorted (sorted l) = sorted l := SortBy.idem l

/-- What is recorded of records that are written in the order of their keys. -/
def sortedValues {β : Type} (key : α → κ) (value : α → β) (l : List α) : List β := (sortBy key l).map value

theorem sortedValues_perm {β : Type} (key : α → κ) (value : α → β) (l : List α) :
    (sortedValues key value l).Perm (l.map value) := (SortBy.perm l).map value

/-- Only the keys and what is recorded of them matter. -/
theorem sortedValues_entries {β : Type} (key : α → κ) (value : α → β) (l : List α) :
    sortedValues key value l = sortedValues Prod.fst Prod.snd (l.map fun a => (key a,value a)) := by
  have hsorted := List.map_insertionSort (fun a b => key a ≤ key b) (fun e f : κ × β => e.1 ≤ f.1)
    (fun a => (key a,value a)) l fun _ _ _ _ => Iff.rfl
  rw [sortedValues,sortedValues,sortBy,sortBy,← hsorted,List.map_map]
  rfl

/-- The recorded values are free of the order the records were built in exactly when no two
records of one key are recorded differently. -/
theorem sortedValues_free {β : Type} {key : α → κ} {value : α → β} {l : List α} :
    (∀ l', l'.Perm l → sortedValues key value l' = sortedValues key value l) ↔
      ∀ a ∈ l, ∀ b ∈ l, key a = key b → value a = value b := by
  classical
  constructor
  · intro h a ha b hb hk
    let entry (c : α) : κ × β := (key c,value c)
    have hentries (l : List α) : (sortBy key l).map entry = ((sortBy key l).map key).zip (sortedValues key value l) := by
      rw [sortedValues,List.zip_map']
    have hsame {l' : List α} (hl' : l'.Perm l) : (sortBy key l').map entry = (sortBy key l).map entry := by
      rw [hentries,hentries,SortBy.keys hl',h l' hl']
    -- each of the two can come first among the records of their key
    have hhead {c : α} (hc : c ∈ l) (hkc : key c = key a) :
        (((sortBy key l).map entry).filter fun e => decide (e.1 = key a)).head? = some (entry c) := by
      rw [← hsame (List.perm_cons_erase hc).symm,List.filter_map]
      have hstable : (sortBy key (c :: l.erase c)).filter ((fun e => decide (e.1 = key a)) ∘ entry) =
          (c :: l.erase c).filter fun c => decide (key c = key a) := SortBy.stable _ _
      rw [hstable]
      simp [hkc]
    have he := (hhead ha rfl).symm.trans (hhead hb hk.symm)
    exact congrArg Prod.snd (Option.some.inj he)
  · intro h l' hl'
    let entry (c : α) : κ × β := (key c,value c)
    have hsorted (l : List α) : ((sortBy key l).map entry).Pairwise fun e f => e.1 ≤ f.1 :=
      (SortBy.sorted l).map entry fun _ _ h => h
    have hperm : ((sortBy key l').map entry).Perm ((sortBy key l).map entry) :=
      (((SortBy.perm l').trans hl').trans (SortBy.perm l).symm).map entry
    have he : (sortBy key l').map entry = (sortBy key l).map entry := by
      refine List.Perm.eq_of_pairwise (fun e f he hf hef hfe => ?_) (hsorted l') (hsorted l) hperm
      obtain ⟨a,ha,rfl⟩ := List.mem_map.mp he
      obtain ⟨b,hb,rfl⟩ := List.mem_map.mp hf
      have hk : key a = key b := le_antisymm hef hfe
      exact Prod.ext hk (h a (hl'.mem_iff.mp (SortBy.mem.mp ha)) b (SortBy.mem.mp hb) hk)
    have hvalues := congrArg (List.map Prod.snd) he
    rw [List.map_map,List.map_map] at hvalues
    exact hvalues

end LocalPlane
