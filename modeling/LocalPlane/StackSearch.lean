import Mathlib.Data.List.Basic
import Mathlib.Data.Nat.Notation
import Mathlib.Tactic.Common

/-!
# A search with a stack

Places are looked at one at a time, so many at most, and what stands below one is looked at
before what waited already. What a look gives may change from one look to the next. Where it
does not, and the places are those of a tree, the search goes through the tree in preorder.
-/

set_option linter.dupNamespace false

namespace LocalPlane
namespace Search

/-- What a look at a place gives: an answer that ends the search, or the places below it. -/
inductive Look (α β : Type) where
  | answer (b : β)
  | below (places : List α)

/-- How a search ends, and after how many looks. -/
inductive End (β : Type) where
  | found (b : β) (looks : ℕ)
  | exhausted (looks : ℕ)
  | spent (looks : ℕ)

section Run

variable {α β : Type} (look : ℕ → α → Look α β)

def run : ℕ → ℕ → List α → End β
  | _,n,[] => .exhausted n
  | 0,n,_ :: _ => .spent n
  | left + 1,n,place :: pending =>
    match look n place with
    | .answer b => .found b (n + 1)
    | .below places => run left (n + 1) (places ++ pending)

/-- The places that are looked at, each with the look it was. -/
def trail : ℕ → ℕ → List α → List (ℕ × α)
  | _,_,[] => []
  | 0,_,_ :: _ => []
  | left + 1,n,place :: pending =>
    (n,place) :: match look n place with
      | .answer _ => []
      | .below places => trail left (n + 1) (places ++ pending)

variable {look} {left n m : ℕ} {place : α} {places pending stack : List α} {b : β}

theorem run_below (h : look n place = .below places) :
    run look (left + 1) n (place :: pending) = run look left (n + 1) (places ++ pending) := by
  rw [run,h]

theorem trail_below (h : look n place = .below places) :
    trail look (left + 1) n (place :: pending) = (n,place) :: trail look left (n + 1) (places ++ pending) := by
  rw [trail,h]

theorem trail_answer (h : look n place = .answer b) : trail look (left + 1) n (place :: pending) = [(n,place)] := by
  rw [trail,h]

theorem length_trail : (trail look left n stack).length ≤ left := by
  induction left generalizing n stack with
  | zero => cases stack <;> exact Nat.le_refl _
  | succ left ih =>
    cases stack with
    | nil => exact Nat.zero_le _
    | cons place pending =>
      cases h : look n place with
      | answer b =>
        rw [trail_answer h]
        exact Nat.succ_le_succ (Nat.zero_le _)
      | below places =>
        rw [trail_below h]
        exact Nat.succ_le_succ ih

/-- What is looked at was there to begin with, or stood below a place that was looked at before. -/
theorem trail_from {i : ℕ} {x : α} (h : (i,x) ∈ trail look left n stack) : n ≤ i ∧ i < n + left ∧
    (x ∈ stack ∨ ∃ j y below, (j,y) ∈ trail look left n stack ∧ j < i ∧ look j y = .below below ∧ x ∈ below) := by
  induction left generalizing n stack with
  | zero => cases stack <;> cases h
  | succ left ih =>
    cases stack with
    | nil => cases h
    | cons place pending =>
      cases hlook : look n place with
      | answer b =>
        rw [trail_answer hlook] at h
        cases List.mem_singleton.mp h
        exact ⟨Nat.le_refl _,by omega,.inl List.mem_cons_self⟩
      | below places =>
        rw [trail_below hlook] at h ⊢
        rcases List.mem_cons.mp h with heq | hrest
        · cases heq
          exact ⟨Nat.le_refl _,by omega,.inl List.mem_cons_self⟩
        · obtain ⟨hle,hlt,hfrom⟩ := ih hrest
          refine ⟨by omega,by omega,?_⟩
          rcases hfrom with hwaiting | ⟨j,y,below,hj,hji,hbelow,hx⟩
          · rcases List.mem_append.mp hwaiting with hx | hx
            · exact .inr ⟨n,place,places,List.mem_cons_self,by omega,hlook,hx⟩
            · exact .inl (List.mem_cons_of_mem _ hx)
          · exact .inr ⟨j,y,below,List.mem_cons_of_mem _ hj,hji,hbelow,hx⟩

/-- An answer is that of the last look. -/
theorem run_found (h : run look left n stack = .found b m) :
    ∃ i place, m = i + 1 ∧ (i,place) ∈ trail look left n stack ∧ look i place = .answer b := by
  induction left generalizing n stack with
  | zero => cases stack <;> cases h
  | succ left ih =>
    cases stack with
    | nil => cases h
    | cons place pending =>
      cases hlook : look n place with
      | answer b' =>
        rw [run,hlook] at h
        cases h
        exact ⟨n,place,rfl,by rw [trail_answer hlook]; exact List.mem_cons_self,hlook⟩
      | below places =>
        rw [run_below hlook] at h
        obtain ⟨i,place',hm,hmem,hanswer⟩ := ih h
        exact ⟨i,place',hm,by rw [trail_below hlook]; exact List.mem_cons_of_mem _ hmem,hanswer⟩

/-- Where nothing is left, all that waited and all that was ever shown below a place was looked at, to no answer. -/
theorem run_exhausted (h : run look left n stack = .exhausted m) : m = n + (trail look left n stack).length ∧
    (∀ x ∈ stack, ∃ i, (i,x) ∈ trail look left n stack) ∧
    ∀ j y, (j,y) ∈ trail look left n stack → ∃ below, look j y = .below below ∧
      ∀ x ∈ below, ∃ i, j < i ∧ (i,x) ∈ trail look left n stack := by
  induction left generalizing n stack with
  | zero =>
    cases stack with
    | nil =>
      cases h
      exact ⟨rfl,fun x hx => absurd hx List.not_mem_nil,fun j y hy => absurd hy List.not_mem_nil⟩
    | cons place pending => cases h
  | succ left ih =>
    cases stack with
    | nil =>
      cases h
      exact ⟨rfl,fun x hx => absurd hx List.not_mem_nil,fun j y hy => absurd hy List.not_mem_nil⟩
    | cons place pending =>
      cases hlook : look n place with
      | answer b =>
        rw [run,hlook] at h
        cases h
      | below places =>
        rw [run_below hlook] at h
        obtain ⟨hm,hwaiting,hclosed⟩ := ih h
        rw [trail_below hlook]
        refine ⟨by rw [hm,List.length_cons]; omega,fun x hx => ?_,fun j y hy => ?_⟩
        · rcases List.mem_cons.mp hx with rfl | hx
          · exact ⟨n,List.mem_cons_self⟩
          · obtain ⟨i,hi⟩ := hwaiting x (List.mem_append_right _ hx)
            exact ⟨i,List.mem_cons_of_mem _ hi⟩
        · rcases List.mem_cons.mp hy with heq | hy
          · cases heq
            refine ⟨places,hlook,fun x hx => ?_⟩
            obtain ⟨i,hi⟩ := hwaiting x (List.mem_append_left _ hx)
            exact ⟨i,(trail_from hi).1,List.mem_cons_of_mem _ hi⟩
          · obtain ⟨below,hbelow,hall⟩ := hclosed j y hy
            refine ⟨below,hbelow,fun x hx => ?_⟩
            obtain ⟨i,hji,hi⟩ := hall x hx
            exact ⟨i,hji,List.mem_cons_of_mem _ hi⟩

theorem run_spent (h : run look left n stack = .spent m) : m = n + left := by
  induction left generalizing n stack with
  | zero =>
    cases stack with
    | nil => cases h
    | cons place pending =>
      cases h
      rfl
  | succ left ih =>
    cases stack with
    | nil => cases h
    | cons place pending =>
      cases hlook : look n place with
      | answer b =>
        rw [run,hlook] at h
        cases h
      | below places =>
        rw [run_below hlook] at h
        have := ih h
        omega

end Run

/-- Trees beside one another, each with its name, its label and the trees below it. -/
inductive Forest (κ ι : Type) where
  | nil
  | cons (name : κ) (label : ι) (below rest : Forest κ ι)

/-- One tree of a forest, with the path that leads to it. -/
structure Entry (κ ι : Type) where
  path : List κ
  label : ι
  below : Forest κ ι

section Trees

variable {κ ι : Type}

def Forest.names : Forest κ ι → List κ
  | .nil => []
  | .cons name _ _ rest => name :: rest.names

def Forest.entries (path : List κ) : Forest κ ι → List (Entry κ ι)
  | .nil => []
  | .cons name label below rest => ⟨path ++ [name],label,below⟩ :: rest.entries path

def Forest.preorder : List κ → Forest κ ι → List (List κ × ι)
  | _,.nil => []
  | path,.cons name label below rest => (path ++ [name],label) :: (below.preorder (path ++ [name]) ++ rest.preorder path)

def Entry.preorder (e : Entry κ ι) : List (List κ × ι) := (e.path,e.label) :: e.below.preorder e.path

theorem Forest.preorder_entries (path : List κ) (f : Forest κ ι) : (f.entries path).flatMap Entry.preorder = f.preorder path := by
  induction f with
  | nil => rfl
  | cons name label below rest _ ih =>
    rw [entries,List.flatMap_cons,ih]
    rfl

theorem Forest.entries_path (path : List κ) (f : Forest κ ι) : (f.entries path).map Entry.path = f.names.map fun name => path ++ [name] := by
  induction f with
  | nil => rfl
  | cons name label below rest _ ih =>
    rw [entries,List.map_cons,ih]
    rfl

variable {β : Type} (look : ℕ → List κ → Look (List κ) β) (hit : ι → Bool) (answer : ℕ → List κ → β)

/-- Every look at a place of the tree gives what the tree has there: an answer where its label is hit, else the names below. -/
def Forest.Shown : List κ → Forest κ ι → Prop
  | _,.nil => True
  | path,.cons name label below rest =>
    (∀ n, look n (path ++ [name]) =
      if hit label then .answer (answer n (path ++ [name])) else .below (below.names.map fun child => path ++ [name] ++ [child])) ∧
    below.Shown (path ++ [name]) ∧ rest.Shown path

def Entry.Shown (e : Entry κ ι) : Prop :=
  (∀ n, look n e.path = if hit e.label then .answer (answer n e.path) else .below (e.below.names.map fun child => e.path ++ [child])) ∧
  e.below.Shown look hit answer e.path

/-- The first hit of a list, within so many looks. -/
def first : ℕ → ℕ → List (List κ × ι) → End β
  | _,n,[] => .exhausted n
  | 0,n,_ :: _ => .spent n
  | left + 1,n,x :: rest => if hit x.2 then .found (answer n x.1) (n + 1) else first left (n + 1) rest

variable {look hit answer} {left n m : ℕ}

theorem Forest.Shown.entries {f : Forest κ ι} {path : List κ} (h : f.Shown look hit answer path) :
    ∀ e ∈ f.entries path, e.Shown look hit answer := by
  induction f with
  | nil => exact fun e he => absurd he List.not_mem_nil
  | cons name label below rest _ ih =>
    obtain ⟨hplace,hbelow,hrest⟩ := h
    intro e he
    rcases List.mem_cons.mp he with rfl | he
    · exact ⟨hplace,hbelow⟩
    · exact ih hrest e he

/-- Where nothing changes the search goes through the tree in preorder. -/
theorem run_first {es : List (Entry κ ι)} (h : ∀ e ∈ es, e.Shown look hit answer) :
    run look left n (es.map Entry.path) = first hit answer left n (es.flatMap Entry.preorder) := by
  induction left generalizing n es with
  | zero => cases es <;> rfl
  | succ left ih =>
    cases es with
    | nil => rfl
    | cons e es =>
      obtain ⟨hplace,hbelow⟩ := h e List.mem_cons_self
      rw [List.map_cons,List.flatMap_cons,Entry.preorder,List.cons_append,first]
      split
      · next hhit => rw [run,hplace n,if_pos hhit]
      · next hmiss =>
        have hnext := hplace n
        rw [if_neg hmiss] at hnext
        rw [run_below hnext,← Forest.entries_path,← List.map_append,ih,List.flatMap_append,Forest.preorder_entries]
        intro e' he'
        rcases List.mem_append.mp he' with he' | he'
        · exact hbelow.entries e' he'
        · exact h e' (List.mem_cons_of_mem _ he')

/-- The first hit is found if it stands within the looks. -/
theorem first_hit {before after : List (List κ × ι)} {x : List κ × ι} (hbefore : ∀ y ∈ before, hit y.2 = false) (hx : hit x.2 = true) :
    first hit answer left n (before ++ x :: after) =
      if before.length < left then .found (answer (n + before.length) x.1) (n + before.length + 1) else .spent (n + left) := by
  induction left generalizing n before with
  | zero => cases before <;> rfl
  | succ left ih =>
    cases before with
    | nil =>
      rw [List.nil_append,first,if_pos hx]
      simp
    | cons y before =>
      have hmiss : ¬hit y.2 = true := by
        rw [hbefore y List.mem_cons_self]
        exact Bool.false_ne_true
      rw [List.cons_append,first,if_neg hmiss,ih fun z hz => hbefore z (List.mem_cons_of_mem _ hz)]
      simp only [List.length_cons,Nat.succ_lt_succ_iff,Nat.add_assoc,Nat.add_comm 1]

theorem first_missed {l : List (List κ × ι)} (hl : ∀ y ∈ l, hit y.2 = false) :
    first hit answer left n l = if l.length ≤ left then .exhausted (n + l.length) else .spent (n + left) := by
  induction left generalizing n l with
  | zero => cases l <;> rfl
  | succ left ih =>
    cases l with
    | nil => rfl
    | cons y l =>
      have hmiss : ¬hit y.2 = true := by
        rw [hl y List.mem_cons_self]
        exact Bool.false_ne_true
      rw [first,if_neg hmiss,ih fun z hz => hl z (List.mem_cons_of_mem _ hz)]
      simp only [List.length_cons,Nat.succ_le_succ_iff,Nat.add_assoc,Nat.add_comm 1]

end Trees

end Search
end LocalPlane
