import LocalPlane.StableSort
import LocalPlane.StackSearch
import Mathlib.Data.String.Basic

/-!
# From a cgroup's id to its path

The unified hierarchy is walked from its root for the directory whose inode is the id. Cgroups
come and go meanwhile, so each look sees a hierarchy of its own.
-/

set_option linter.dupNamespace false

namespace LocalPlane
namespace CgroupWalk

open Search

abbrev Path := List String

structure OsError where
  errorType : String
  text : String
  deriving DecidableEq

inductive Detail where
  | none
  | limit (limit : ℕ)
  | failed (path : Path) (error : OsError)
  | cgroupId (cgroupId : ℕ)
  deriving DecidableEq

structure CgroupPathResult where
  status : String
  reason : String
  path : Option String
  inspectedCount : ℕ
  detail : Detail
  deriving DecidableEq

/-- What each look meets: whether time is up, the inode of a directory, and the names of the directories in it. -/
structure Hierarchy where
  unified : Bool
  late : ℕ → Bool
  stat : ℕ → Path → Except OsError ℕ
  scan : ℕ → Path → Except OsError (List String)

def maxCgroupDirectories : ℕ := 16384

def pathText (path : Path) : String := "/" ++ String.intercalate "/" path

def expired (n : ℕ) : CgroupPathResult := ⟨"failed","cgroup_walk_deadline_expired",none,n,.none⟩
def overrun (n limit : ℕ) : CgroupPathResult := ⟨"failed","cgroup_walk_limit_exceeded",none,n,.limit limit⟩
def unreadable (n : ℕ) (path : Path) (e : OsError) : CgroupPathResult := ⟨"failed","cgroup_walk_failed",none,n,.failed path e⟩
def resolved (n : ℕ) (path : Path) : CgroupPathResult := ⟨"resolved","cgroup_path_resolved",some (pathText path),n,.none⟩
def notFound (n cgroupId : ℕ) : CgroupPathResult := ⟨"not_found","cgroup_id_not_found",none,n,.cgroupId cgroupId⟩

variable (h : Hierarchy) (cgroupId maxDirectories : ℕ)

/-- What is done about one directory. -/
def inspect (n : ℕ) (path : Path) : Look Path CgroupPathResult :=
  if h.late n then .answer (expired n)
  else match h.stat n path with
    | .error e => .answer (unreadable (n + 1) path e)
    | .ok inode =>
      if inode = cgroupId then .answer (resolved (n + 1) path)
      else match h.scan n path with
        | .error e => .answer (unreadable (n + 1) path e)
        | .ok children => .below ((sortBy id children).map fun child => path ++ [child])

def resolveCgroupPath : CgroupPathResult :=
  if h.unified then
    match run (inspect h cgroupId) maxDirectories 0 [[]] with
    | .found result _ => result
    | .exhausted n => notFound n cgroupId
    | .spent n => if h.late n then expired n else overrun (n + 1) maxDirectories
  else ⟨"unsupported","unified_cgroup_v2_unavailable",none,0,.none⟩

variable {h cgroupId maxDirectories} {n : ℕ} {path : Path}

theorem inspect_below {places : List Path} (hlook : inspect h cgroupId n path = .below places) : h.late n = false ∧
    ∃ inode children, h.stat n path = .ok inode ∧ inode ≠ cgroupId ∧ h.scan n path = .ok children ∧
      places = (sortBy id children).map fun child => path ++ [child] := by
  unfold inspect at hlook
  split at hlook
  · cases hlook
  · next hlate =>
    split at hlook
    · cases hlook
    · next inode hstat =>
      split at hlook
      · cases hlook
      · next hinode =>
        split at hlook
        · cases hlook
        · next children hscan =>
          cases hlook
          exact ⟨Bool.eq_false_iff.mpr hlate,inode,children,hstat,hinode,hscan,rfl⟩

/-- An answer that is not a path says that the walk failed. -/
theorem inspect_answer {result : CgroupPathResult} (hlook : inspect h cgroupId n path = .answer result) :
    result = resolved (n + 1) path ∧ h.stat n path = .ok cgroupId ∨
    result.status = "failed" ∧ result.path = none ∧ result.inspectedCount ≤ n + 1 := by
  unfold inspect at hlook
  split at hlook
  · cases hlook
    exact .inr ⟨rfl,rfl,Nat.le_succ n⟩
  · split at hlook
    · cases hlook
      exact .inr ⟨rfl,rfl,Nat.le_refl _⟩
    · next inode hstat =>
      split at hlook
      · next hinode =>
        cases hlook
        exact .inl ⟨rfl,hinode ▸ hstat⟩
      · split at hlook
        · cases hlook
          exact .inr ⟨rfl,rfl,Nat.le_refl _⟩
        · cases hlook

/-- A look of the walk, at a directory that is the root or was listed by an earlier look at the one above it. -/
inductive Walked (h : Hierarchy) (cgroupId : ℕ) : ℕ → Path → Prop where
  | root (i : ℕ) : Walked h cgroupId i []
  | listed {i j : ℕ} {path : Path} {children : List String} {child : String} (above : Walked h cgroupId j path) (later : j < i)
      (other : ∃ inode, h.stat j path = .ok inode ∧ inode ≠ cgroupId) (scanned : h.scan j path = .ok children)
      (mem : child ∈ children) : Walked h cgroupId i (path ++ [child])

abbrev looks (h : Hierarchy) (cgroupId maxDirectories : ℕ) : List (ℕ × Path) := trail (inspect h cgroupId) maxDirectories 0 [[]]

theorem walked {i : ℕ} (hi : (i,path) ∈ looks h cgroupId maxDirectories) : Walked h cgroupId i path ∧ i < maxDirectories := by
  induction i using Nat.strong_induction_on generalizing path with
  | _ i ih =>
    obtain ⟨-,hlt,hfrom⟩ := trail_from hi
    refine ⟨?_,by omega⟩
    rcases hfrom with hroot | ⟨j,above,places,hj,hji,hbelow,hplace⟩
    · cases List.mem_singleton.mp hroot
      exact .root i
    · obtain ⟨-,inode,children,hstat,hother,hscan,rfl⟩ := inspect_below hbelow
      obtain ⟨child,hchild,rfl⟩ := List.mem_map.mp hplace
      exact .listed (ih j hji hj).1 hji ⟨inode,hstat,hother⟩ hscan (SortBy.mem.mp hchild)

/-- A path is that of a directory which had the id when it was looked at; that there is none is said when the root and
every directory listed since were looked at, and had other ids. -/
theorem resolve_exact (h : Hierarchy) (cgroupId maxDirectories : ℕ) :
    (resolveCgroupPath h cgroupId maxDirectories).inspectedCount ≤ maxDirectories + 1 ∧
    (∀ text, (resolveCgroupPath h cgroupId maxDirectories).path = some text →
      ∃ i path, resolveCgroupPath h cgroupId maxDirectories = resolved (i + 1) path ∧ text = pathText path ∧
        Walked h cgroupId i path ∧ i < maxDirectories ∧ h.stat i path = .ok cgroupId) ∧
    ((resolveCgroupPath h cgroupId maxDirectories).status = "not_found" → ∃ seen : List (ℕ × Path),
      (resolveCgroupPath h cgroupId maxDirectories).inspectedCount = seen.length ∧ (∃ i, (i,[]) ∈ seen) ∧
      ∀ i path, (i,path) ∈ seen → Walked h cgroupId i path ∧ ∃ inode children, h.stat i path = .ok inode ∧ inode ≠ cgroupId ∧
        h.scan i path = .ok children ∧ ∀ child ∈ children, ∃ j, i < j ∧ (j,path ++ [child]) ∈ seen) := by
  unfold resolveCgroupPath
  split
  · cases hrun : run (inspect h cgroupId) maxDirectories 0 [[]] with
    | found result m =>
      obtain ⟨i,path,-,hmem,hanswer⟩ := run_found hrun
      obtain ⟨hwalked,hlt⟩ := walked hmem
      rcases inspect_answer hanswer with ⟨rfl,hstat⟩ | ⟨hstatus,hpath,hcount⟩
      · refine ⟨by show i + 1 ≤ _; omega,fun text htext => ?_,fun hstatus => ?_⟩
        · cases htext
          exact ⟨i,path,rfl,rfl,hwalked,hlt,hstat⟩
        · exact absurd hstatus (by decide : "resolved" ≠ "not_found")
      · refine ⟨by dsimp only; omega,fun text htext => ?_,fun hfound => ?_⟩
        · dsimp only at htext
          rw [hpath] at htext
          cases htext
        · dsimp only at hfound
          rw [hstatus] at hfound
          exact absurd hfound (by decide)
    | exhausted m =>
      obtain ⟨hm,hroot,hclosed⟩ := run_exhausted hrun
      have hlength : (looks h cgroupId maxDirectories).length ≤ maxDirectories := length_trail
      rw [Nat.zero_add] at hm
      refine ⟨by rw [hm]; exact Nat.le_succ_of_le hlength,fun text htext => (by cases htext),fun _ => ⟨looks h cgroupId maxDirectories,hm,?_,?_⟩⟩
      · exact hroot [] List.mem_cons_self
      · intro i path hmem
        obtain ⟨places,hbelow,hall⟩ := hclosed i path hmem
        obtain ⟨-,inode,children,hstat,hother,hscan,rfl⟩ := inspect_below hbelow
        refine ⟨(walked hmem).1,inode,children,hstat,hother,hscan,fun child hchild => ?_⟩
        exact hall _ (List.mem_map.mpr ⟨child,SortBy.mem.mpr hchild,rfl⟩)
    | spent m =>
      have hm := run_spent hrun
      dsimp only
      split
      · exact ⟨by show m ≤ _; omega,fun text htext => (by cases htext),fun hfound => absurd hfound (by decide : "failed" ≠ "not_found")⟩
      · exact ⟨by show m + 1 ≤ _; omega,fun text htext => (by cases htext),fun hfound => absurd hfound (by decide : "failed" ≠ "not_found")⟩
  · exact ⟨Nat.zero_le _,fun text htext => (by cases htext),fun hfound => absurd hfound (by decide : "unsupported" ≠ "not_found")⟩

/-! A hierarchy that stands still -/

/-- What stands at a path, whenever it is looked at: an inode, and below it names in whatever order they are listed. -/
def Stands (h : Hierarchy) (path : Path) (inode : ℕ) (below : Forest String ℕ) : Prop :=
  ∀ n, h.stat n path = .ok inode ∧ ∃ children, h.scan n path = .ok children ∧ children.Perm below.names

def Laid (h : Hierarchy) : Path → Forest String ℕ → Prop
  | _,.nil => True
  | path,.cons name inode below rest => Stands h (path ++ [name]) inode below ∧ Laid h (path ++ [name]) below ∧ Laid h path rest

/-- Trees that stand beside one another are in the order of their names. -/
def Ordered : Forest String ℕ → Prop
  | .nil => True
  | .cons name _ below rest => (∀ other ∈ rest.names, name < other) ∧ Ordered below ∧ Ordered rest

structure Still (h : Hierarchy) (inode : ℕ) (tree : Forest String ℕ) : Prop where
  unified : h.unified = true
  early : ∀ n, h.late n = false
  root : Stands h [] inode tree
  laid : Laid h [] tree
  ordered : Ordered tree

theorem Ordered.names {f : Forest String ℕ} (hf : Ordered f) : f.names.Pairwise (· ≤ ·) := by
  induction f with
  | nil => exact .nil
  | cons name inode below rest _ ih => exact .cons (fun other hother => le_of_lt (hf.1 other hother)) (ih hf.2.2)

def isWanted (cgroupId inode : ℕ) : Bool := decide (inode = cgroupId)

def found (n : ℕ) (path : Path) : CgroupPathResult := resolved (n + 1) path

theorem inspect_still {inode : ℕ} {below : Forest String ℕ} (hearly : ∀ n, h.late n = false) (hstands : Stands h path inode below)
    (hordered : Ordered below) (n : ℕ) : inspect h cgroupId n path =
      if isWanted cgroupId inode then .answer (found n path) else .below (below.names.map fun child => path ++ [child]) := by
  obtain ⟨hstat,children,hscan,hperm⟩ := hstands n
  have hsorted : sortBy id children = below.names := by
    have hkeys : (sortBy id children).map id = (sortBy id below.names).map id := SortBy.keys hperm
    rw [List.map_id,List.map_id] at hkeys
    rw [hkeys]
    exact hordered.names.insertionSort_eq
  unfold inspect
  rw [if_neg (by rw [hearly n]; exact Bool.false_ne_true),hstat,hscan]
  dsimp only
  rw [hsorted]
  by_cases hinode : inode = cgroupId
  · rw [if_pos hinode,if_pos (show isWanted cgroupId inode = true from decide_eq_true hinode)]
    rfl
  · rw [if_neg hinode,if_neg (by simp [isWanted,hinode])]

theorem Laid.shown {f : Forest String ℕ} (hearly : ∀ n, h.late n = false) (hlaid : Laid h path f) (hordered : Ordered f) :
    f.Shown (inspect h cgroupId) (isWanted cgroupId) found path := by
  induction f generalizing path with
  | nil => exact trivial
  | cons name inode below rest ihbelow ihrest =>
    obtain ⟨hstands,hlaidBelow,hlaidRest⟩ := hlaid
    obtain ⟨-,hbelow,hrest⟩ := hordered
    exact ⟨inspect_still hearly hstands hbelow,ihbelow hlaidBelow hbelow,ihrest hlaidRest hrest⟩

/-- While the hierarchy stands still the id is resolved to the first directory that has it, with those above before those
below and in the order of their names, or no directory has it; unless more of them come first than may be looked at. -/
theorem resolve_still {inode : ℕ} {tree : Forest String ℕ} (hstill : Still h inode tree) (cgroupId maxDirectories : ℕ) :
    (∀ before x after, ([],inode) :: tree.preorder [] = before ++ x :: after → (∀ y ∈ before, y.2 ≠ cgroupId) → x.2 = cgroupId →
      resolveCgroupPath h cgroupId maxDirectories =
        if before.length < maxDirectories then resolved (before.length + 1) x.1 else overrun (maxDirectories + 1) maxDirectories) ∧
    ((∀ x ∈ ([],inode) :: tree.preorder [], x.2 ≠ cgroupId) → resolveCgroupPath h cgroupId maxDirectories =
      if (tree.preorder []).length + 1 ≤ maxDirectories then notFound ((tree.preorder []).length + 1) cgroupId
      else overrun (maxDirectories + 1) maxDirectories) := by
  have hshown : Entry.Shown (inspect h cgroupId) (isWanted cgroupId) found ⟨[],inode,tree⟩ :=
    ⟨inspect_still hstill.early hstill.root hstill.ordered,hstill.laid.shown hstill.early hstill.ordered⟩
  have hfirst : run (inspect h cgroupId) maxDirectories 0 ([⟨[],inode,tree⟩].map Entry.path) =
      first (isWanted cgroupId) found maxDirectories 0 ([⟨[],inode,tree⟩].flatMap Entry.preorder) :=
    run_first fun e he => List.mem_singleton.mp he ▸ hshown
  have hrun : run (inspect h cgroupId) maxDirectories 0 [[]] =
      first (isWanted cgroupId) found maxDirectories 0 (([],inode) :: tree.preorder []) := by
    simpa [Entry.preorder] using hfirst
  have hearly : ¬h.late maxDirectories = true := by
    rw [hstill.early]
    exact Bool.false_ne_true
  constructor
  · intro before x after hplaces hbefore hx
    have hmissed : ∀ y ∈ before, isWanted cgroupId y.2 = false := fun y hy => decide_eq_false (hbefore y hy)
    have hhit : isWanted cgroupId x.2 = true := decide_eq_true hx
    rw [resolveCgroupPath,if_pos hstill.unified,hrun,hplaces,first_hit hmissed hhit]
    simp only [Nat.zero_add]
    by_cases hwithin : before.length < maxDirectories
    · rw [if_pos hwithin,if_pos hwithin]
      rfl
    · rw [if_neg hwithin,if_neg hwithin]
      exact if_neg hearly
  · intro hall
    have hmissed : ∀ y ∈ ([],inode) :: tree.preorder [], isWanted cgroupId y.2 = false := fun y hy => decide_eq_false (hall y hy)
    rw [resolveCgroupPath,if_pos hstill.unified,hrun,first_missed hmissed]
    simp only [List.length_cons,Nat.zero_add]
    by_cases hwithin : (tree.preorder []).length + 1 ≤ maxDirectories
    · rw [if_pos hwithin,if_pos hwithin]
    · rw [if_neg hwithin,if_neg hwithin]
      exact if_neg hearly

/-- Three cgroups, one of them in another, listed out of order. -/
def docker : Forest String ℕ := .cons "docker" 2 (.cons "one" 3 .nil .nil) (.cons "user" 4 .nil .nil)

def dockerHost : Hierarchy where
  unified := true
  late := fun _ => false
  stat := fun _ path => .ok (if path = [] then 1 else if path = ["docker"] then 2 else if path = ["docker","one"] then 3 else 4)
  scan := fun _ path => .ok (if path = [] then ["user","docker"] else if path = ["docker"] then ["one"] else [])

theorem docker_still : Still dockerHost 1 docker where
  unified := rfl
  early := fun _ => rfl
  root := fun _ => ⟨rfl,_,rfl,List.Perm.swap _ _ _⟩
  laid := ⟨fun _ => ⟨rfl,_,rfl,List.Perm.refl _⟩,⟨fun _ => ⟨rfl,_,rfl,List.Perm.refl _⟩,trivial,trivial⟩,
    fun _ => ⟨rfl,_,rfl,List.Perm.refl _⟩,trivial,trivial⟩
  ordered := by
    refine ⟨fun other hother => ?_,⟨fun other hother => absurd hother List.not_mem_nil,trivial,trivial⟩,
      fun other hother => absurd hother List.not_mem_nil,trivial,trivial⟩
    cases List.mem_singleton.mp hother
    decide

theorem resolve_still_docker : resolveCgroupPath dockerHost 3 maxCgroupDirectories = resolved 3 ["docker","one"] := by
  have hbefore : ∀ y ∈ [([],1),(["docker"],2)], (y : Path × ℕ).2 ≠ 3 := by
    intro y hy
    simp only [List.mem_cons,List.not_mem_nil,or_false] at hy
    rcases hy with rfl | rfl <;> decide
  exact (resolve_still docker_still 3 maxCgroupDirectories).1 [([],1),(["docker"],2)] (["docker","one"],3) [(["user"],4)] rfl hbefore rfl

end CgroupWalk
end LocalPlane
