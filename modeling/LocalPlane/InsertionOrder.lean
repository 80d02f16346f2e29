import Mathlib.Data.List.Basic

/-!
# Maps that keep the order their keys came in

A key that is set again keeps its place and gets the new value. What such a map holds for
a key, after a list was gathered into it, depends on that key's part of the list alone.
-/

set_option linter.dupNamespace false

namespace LocalPlane
namespace InsertionOrder

variable {κ α β : Type} [DecidableEq κ]

def get (m : List (κ × β)) (k : κ) : Option β := (m.find? fun e => e.1 = k).map (·.2)

def alter (k : κ) (f : Option β → β) : List (κ × β) → List (κ × β)
  | [] => [(k,f none)]
  | e :: rest => if e.1 = k then (k,f (some e.2)) :: rest else e :: alter k f rest

/-- The elements of a list go into the map one after another, each under its key. -/
def gather (key : α → κ) (f : Option β → α → β) (l : List α) : List (κ × β) :=
  l.foldl (fun m a => alter (key a) (fun old => f old a) m) []

variable {key : α → κ} {f : Option β → α → β} {m : List (κ × β)} {l : List α} {k k' : κ} {v : β}

theorem get_alter (g : Option β → β) (m : List (κ × β)) :
    get (alter k g m) k' = if k' = k then some (g (get m k)) else get m k' := by
  induction m with
  | nil => by_cases hk : k = k' <;> simp [alter,get,hk,eq_comm]
  | cons e rest ih =>
    obtain ⟨key,value⟩ := e
    by_cases hkey : key = k
    · subst hkey
      by_cases hk : k' = key
      · subst hk
        simp [alter,get]
      · simp [alter,get,hk,Ne.symm hk]
    · by_cases hk : key = k'
      · subst hk
        simp [alter,get,hkey]
      · simp only [get,alter,hkey,hk,if_false,List.find?_cons,decide_false] at ih ⊢
        exact ih

theorem mem_keys_alter (g : Option β → β) (m : List (κ × β)) :
    k' ∈ (alter k g m).map Prod.fst ↔ k' = k ∨ k' ∈ m.map Prod.fst := by
  induction m with
  | nil => simp [alter]
  | cons e rest ih =>
    by_cases he : e.1 = k
    · simp [alter,he]
    · simp only [alter,he,if_false,List.map_cons,List.mem_cons,ih]
      tauto

theorem nodup_alter (g : Option β → β) (h : (m.map Prod.fst).Nodup) : ((alter k g m).map Prod.fst).Nodup := by
  induction m with
  | nil => simp [alter]
  | cons e rest ih =>
    rw [List.map_cons,List.nodup_cons] at h
    by_cases he : e.1 = k
    · subst he
      simp only [alter,if_true,List.map_cons,List.nodup_cons]
      exact h
    · simp only [alter,he,if_false,List.map_cons,List.nodup_cons]
      refine ⟨fun hmem => ?_,ih h.2⟩
      rcases (mem_keys_alter g rest).mp hmem with hk | hmem
      · exact he hk
      · exact h.1 hmem

/-- With each key once, what the map holds for a key is the entry under it. -/
theorem mem_iff_get (h : (m.map Prod.fst).Nodup) : (k,v) ∈ m ↔ get m k = some v := by
  induction m with
  | nil => simp [get]
  | cons e rest ih =>
    obtain ⟨key,value⟩ := e
    rw [List.map_cons,List.nodup_cons] at h
    by_cases hk : key = k
    · subst hk
      have hrest : (key,v) ∉ rest := fun hmem => h.1 (List.mem_map.mpr ⟨_,hmem,rfl⟩)
      simp [get,hrest,eq_comm]
    · have hne : (k,v) ≠ (key,value) := fun he => hk (congrArg Prod.fst he).symm
      rw [List.mem_cons,or_iff_right hne,ih h.2]
      simp [get,hk]

theorem nodup_gather (key : α → κ) (f : Option β → α → β) (l : List α) : ((gather key f l).map Prod.fst).Nodup := by
  suffices h : ∀ m : List (κ × β), (m.map Prod.fst).Nodup →
      ((l.foldl (fun m a => alter (key a) (fun old => f old a) m) m).map Prod.fst).Nodup from h [] List.nodup_nil
  induction l with
  | nil => exact fun m hm => hm
  | cons a rest ih => exact fun m hm => ih _ (nodup_alter _ hm)

/-- What is held for a key is folded from the elements of that key. -/
theorem get_gather (key : α → κ) (f : Option β → α → β) (l : List α) (k : κ) :
    get (gather key f l) k = (l.filter fun a => key a = k).foldl (fun held a => some (f held a)) none := by
  suffices h : ∀ m : List (κ × β), get (l.foldl (fun m a => alter (key a) (fun old => f old a) m) m) k =
      (l.filter fun a => key a = k).foldl (fun held a => some (f held a)) (get m k) from h []
  induction l with
  | nil => exact fun m => rfl
  | cons a rest ih =>
    intro m
    rw [List.foldl_cons,ih,get_alter]
    by_cases ha : key a = k
    · simp [ha]
    · simp [ha,Ne.symm ha]

theorem mem_gather : (k,v) ∈ gather key f l ↔
    (l.filter fun a => key a = k).foldl (fun held a => some (f held a)) none = some v := by
  rw [mem_iff_get (nodup_gather key f l),get_gather]

/-- Where the last value wins. -/
theorem mem_gather_last {value : α → β} : (k,v) ∈ gather key (fun _ a => value a) l ↔
    (l.filter fun a => key a = k).getLast?.map value = some v := by
  rw [mem_gather]
  suffices h : ∀ (l : List α) (held : Option β), l.foldl (fun _ a => some (value a)) held = (l.getLast?.map value).or held by
    rw [h,Option.or_none]
  intro l
  induction l with
  | nil => simp
  | cons a rest ih =>
    intro held
    rw [List.foldl_cons,ih]
    cases rest <;> simp [List.getLast?_cons]

/-- Where the values are listed. -/
theorem get_gather_list {value : α → β} :
    (get (gather key (fun held a => held.getD [] ++ [value a]) l) k).getD [] = (l.filter fun a => key a = k).map value := by
  rw [get_gather]
  suffices h : ∀ (l : List α) (held : Option (List β)),
      (l.foldl (fun held a => some (held.getD [] ++ [value a])) held).getD [] = held.getD [] ++ l.map value by
    rw [h,Option.getD_none,List.nil_append]
  intro l
  induction l with
  | nil => simp
  | cons a rest ih =>
    intro held
    rw [List.foldl_cons,ih]
    simp

end InsertionOrder
end LocalPlane
