import LocalPlane.LoadedUnits

/-!
# What a unit inventory claims

An inventory that calls itself complete owes a unit to every supported row that was listed,
one that carries the row's name. The loop keeps the first unit read under each canonical
name, and never asks whether the unit it read carries the name it was listed under.
-/

set_option linter.dupNamespace false

namespace LocalPlane
namespace LoadedUnits

def UnitObservation.Carries (u : UnitObservation) (name : Text) : Prop :=
  u.canonicalId = name ∨ ∃ names, u.names = some names ∧ name ∈ names

abbrev Reading := Row × Except Raised UnitObservation

def Reading.broken (r : Reading) : Prop := ∃ e, r.2 = .error e ∧ e.transport = true

section Owed

variable (config : Config) (m : Manager)

/-- The rows that the manager listed, where it was asked and answered. -/
def listing : Option (List Row) :=
  match m.runtimeMissing,m.connect,remainingTimeout config m m.managerClock >>= m.managerProperties,
      remainingTimeout config m m.listClock >>= m.listLoadedUnits with
  | false,.ok _,.ok _,.ok (rows,_) => some rows
  | _,_,_,_ => none

def readingsFrom (n : ℕ) (rows : List Row) : List Reading := rows.mapIdx fun i row => (row,observePath config m (n + i) row)

/-- What reading each selected row within the limit comes to. -/
def readings : List Reading := readingsFrom config m 0 ((selectedRows ((listing config m).getD [])).take config.maxUnits)

def Represented (name : Text) : Prop := ∃ u ∈ (observeUnits config m).units, u.Carries name

/-- Why a row that was within the limit, after these, is not represented. -/
def Explained (before : List Reading) (r : Reading) : Prop :=
  (observeUnits config m).status = .failed ∨
  (∃ e, r.2 = .error e ∧ .unitReadFailed r.1.name e ∈ (observeUnits config m).issues) ∨
  (∃ u, r.2 = .ok u ∧ (∃ prior ∈ before, ∃ u', prior.2 = .ok u' ∧ u'.canonicalId = u.canonicalId) ∧
    .aliasCollapsed u.canonicalId r.1.name ∈ (observeUnits config m).issues) ∨
  ((∃ prior ∈ before ++ [r], prior.broken) ∧
    ∃ e n, .inventoryTimeout n e ∈ (observeUnits config m).issues ∨ .inventoryInterrupted e ∈ (observeUnits config m).issues)

structure Truthful : Prop where
  unique : ((observeUnits config m).units.map (·.canonicalId)).Nodup
  ordered : (observeUnits config m).units.Pairwise fun u v => codes u.canonicalId ≤ codes v.canonicalId
  bounded : (observeUnits config m).units.length ≤ config.maxUnits
  complete : (observeUnits config m).inventoryComplete = true → ∃ rows, listing config m = some rows ∧
    (∀ row ∈ rows, row.readable = true) ∧ (selectedRows rows).length ≤ config.maxUnits ∧
    (∀ r ∈ readings config m, ∃ u, r.2 = .ok u) ∧ ∀ row ∈ rows, rowIsSupported row = true → Represented config m row.name
  explained : ∀ before r after, readings config m = before ++ r :: after → Represented config m r.1.name ∨ Explained config m before r
  cut : ∀ rows, listing config m = some rows → ∀ row ∈ (selectedRows rows).drop config.maxUnits,
    Represented config m row.name ∨ (observeUnits config m).status = .failed ∨ (observeUnits config m).truncated = true
  unreadable : ∀ rows, listing config m = some rows → ∀ row ∈ rows, row.readable = false →
    (observeUnits config m).status = .failed ∨ ∃ n, .rowsUnreadable n ∈ (observeUnits config m).issues

/-- Some unit that was the first to be read under its canonical name carries the name. -/
def Carried (name : Text) : Prop :=
  ∃ (before : List Reading) (r : Reading) (after : List Reading) (u : UnitObservation),
    readings config m = before ++ r :: after ∧ r.2 = .ok u ∧ (∀ prior ∈ before, ¬prior.broken) ∧
    (∀ prior ∈ before, ∀ u', prior.2 = .ok u' → u'.canonicalId ≠ u.canonicalId) ∧ u.Carries name

/-- Nothing the manager listed is unreadable or too much, and no call failed. -/
structure Undisturbed : Prop where
  close : m.close = .ok ()
  listed : ∃ rows, listing config m = some rows ∧ (∀ row ∈ rows, row.readable = true) ∧ (selectedRows rows).length ≤ config.maxUnits
  read : ∀ r ∈ readings config m, ∃ u, r.2 = .ok u

/-- Every row whose unit was read has its name carried by a unit that is kept. A row of a unit that was
read before is owed this where nothing else makes the inventory partial. -/
def NamesCarried : Prop :=
  ∀ (before : List Reading) (r : Reading) (after : List Reading) (u : UnitObservation),
    readings config m = before ++ r :: after → r.2 = .ok u → (∀ prior ∈ before, ¬prior.broken) →
    ((∀ prior ∈ before, ∀ u', prior.2 = .ok u' → u'.canonicalId ≠ u.canonicalId) ∨ Undisturbed config m) → Carried config m r.1.name

end Owed

variable {config : Config} {m : Manager}

section Loop

/-- The loop over what reading each row comes to. -/
def walk : List Reading → Locals → Locals × Option Raised
  | [],s => (s,none)
  | (row,.ok u) :: rest,s =>
    if s.units.any fun prior => prior.canonicalId = u.canonicalId then
      walk rest { s with issues := s.issues ++ [.aliasCollapsed u.canonicalId row.name] }
    else walk rest { s with units := s.units ++ [u] }
  | (row,.error e) :: rest,s =>
    if e.transport then (s,some e) else walk rest { s with issues := s.issues ++ [.unitReadFailed row.name e] }

theorem readingsFrom_cons (n : ℕ) (row : Row) (rest : List Row) :
    readingsFrom config m n (row :: rest) = (row,observePath config m n row) :: readingsFrom config m (n+1) rest := by
  simp only [readingsFrom,List.mapIdx_cons,Nat.add_zero]
  congr 1
  refine congrFun (congrArg _ ?_) rest
  funext i row
  rw [Nat.add_assoc,Nat.add_comm 1 i]

theorem readRows_eq (rows : List Row) (n : ℕ) (s : Locals) : readRows config m n rows s = walk (readingsFrom config m n rows) s := by
  induction rows generalizing n s with
  | nil => rfl
  | cons row rest ih =>
    rw [readingsFrom_cons,readRows]
    cases observePath config m n row with
    | ok u =>
      simp only [walk]
      split <;> exact ih ..
    | error e =>
      simp only [walk]
      split
      · rfl
      · exact ih ..

/-- What the loop makes of the rows it was given, after those that went before. -/
structure Walked (rs : List Reading) (s : Locals) (result : Locals × Option Raised) : Prop where
  rest : result.1.providerVersion = s.providerVersion ∧ result.1.listedCount = s.listedCount ∧ result.1.inventoryMethod = s.inventoryMethod ∧
    result.1.truncated = s.truncated ∧ result.1.capReached = s.capReached
  units : ∀ u, u ∈ result.1.units ↔ u ∈ s.units ∨
    ∃ (before : List Reading) (r : Reading) (after : List Reading), rs = before ++ r :: after ∧ r.2 = .ok u ∧
    (∀ prior ∈ before, ¬prior.broken) ∧ (∀ prior ∈ s.units, prior.canonicalId ≠ u.canonicalId) ∧
    ∀ prior ∈ before, ∀ u', prior.2 = .ok u' → u'.canonicalId ≠ u.canonicalId
  issues : ∀ issue, issue ∈ result.1.issues ↔ issue ∈ s.issues ∨
    ∃ (before : List Reading) (r : Reading) (after : List Reading), rs = before ++ r :: after ∧
    (∀ prior ∈ before, ¬prior.broken) ∧
    ((∃ e, r.2 = .error e ∧ e.transport = false ∧ issue = .unitReadFailed r.1.name e) ∨
      ∃ u, r.2 = .ok u ∧ issue = .aliasCollapsed u.canonicalId r.1.name ∧
        ((∃ prior ∈ s.units, prior.canonicalId = u.canonicalId) ∨ ∃ prior ∈ before, ∃ u', prior.2 = .ok u' ∧ u'.canonicalId = u.canonicalId))
  raised : ∀ e, result.2 = some e ↔ ∃ (before : List Reading) (r : Reading) (after : List Reading),
    rs = before ++ r :: after ∧ (∀ prior ∈ before, ¬prior.broken) ∧ r.2 = .error e ∧ e.transport = true
  nodup : (s.units.map (·.canonicalId)).Nodup → (result.1.units.map (·.canonicalId)).Nodup
  length : result.1.units.length ≤ s.units.length + rs.length

/-- Where something holds of a place in a list, it holds of the head or of a place in the tail. -/
theorem exists_place_cons {α : Type} {P : List α → α → Prop} (a : α) (as : List α) :
    (∃ before r after, a :: as = before ++ r :: after ∧ P before r) ↔
      P [] a ∨ ∃ before r after, as = before ++ r :: after ∧ P (a :: before) r := by
  constructor
  · rintro ⟨before,r,after,split,held⟩
    cases before with
    | nil =>
      obtain ⟨rfl,rfl⟩ := List.cons.inj split
      exact .inl held
    | cons b before =>
      obtain ⟨rfl,rest⟩ := List.cons.inj split
      exact .inr ⟨before,r,after,rest,held⟩
  · rintro (held | ⟨before,r,after,rfl,held⟩)
    · exact ⟨[],a,as,rfl,held⟩
    · exact ⟨a :: before,r,after,rfl,held⟩

theorem not_broken_ok (row : Row) (u : UnitObservation) : ¬Reading.broken (row,.ok u) := by
  simp [Reading.broken]

theorem broken_error (row : Row) (e : Raised) : Reading.broken (row,.error e) ↔ e.transport = true := by
  simp [Reading.broken]

variable {rs : List Reading} {s : Locals} {result : Locals × Option Raised} {row : Row}

theorem Walked.collapse {u : UnitObservation} (known : ∃ prior ∈ s.units, prior.canonicalId = u.canonicalId)
    (h : Walked rs { s with issues := s.issues ++ [.aliasCollapsed u.canonicalId row.name] } result) :
    Walked ((row,.ok u) :: rs) s result where
  rest := h.rest
  units v := by
    obtain ⟨prior,member,same⟩ := known
    rw [h.units v,exists_place_cons]
    refine or_congr_right ?_
    constructor
    · rintro ⟨before,r,after,split,read,sound,fresh,first⟩
      refine .inr ⟨before,r,after,split,read,?_,fresh,?_⟩
      · exact List.forall_mem_cons.mpr ⟨not_broken_ok row u,sound⟩
      · refine List.forall_mem_cons.mpr ⟨?_,first⟩
        rintro _ ⟨⟩ equal
        exact fresh prior member (same.trans equal)
    · rintro (⟨read,-,fresh,-⟩ | ⟨before,r,after,split,read,sound,fresh,first⟩)
      · cases read
        exact absurd same (fresh prior member)
      · exact ⟨before,r,after,split,read,(List.forall_mem_cons.mp sound).2,fresh,(List.forall_mem_cons.mp first).2⟩
  issues issue := by
    rw [h.issues issue,exists_place_cons,List.mem_append,List.mem_singleton,or_assoc]
    refine or_congr_right (or_congr ?_ ?_)
    · simp [known]
    · constructor
      · rintro ⟨before,r,after,split,sound,noted⟩
        refine ⟨before,r,after,split,List.forall_mem_cons.mpr ⟨not_broken_ok row u,sound⟩,?_⟩
        obtain noted | ⟨v,read,isIssue,inUnits | ⟨prior,member,found⟩⟩ := noted
        · exact .inl noted
        · exact .inr ⟨v,read,isIssue,.inl inUnits⟩
        · exact .inr ⟨v,read,isIssue,.inr ⟨prior,List.mem_cons_of_mem _ member,found⟩⟩
      · rintro ⟨before,r,after,split,sound,noted⟩
        refine ⟨before,r,after,split,(List.forall_mem_cons.mp sound).2,?_⟩
        obtain noted | ⟨v,read,isIssue,inUnits | ⟨prior,member,w,found,same⟩⟩ := noted
        · exact .inl noted
        · exact .inr ⟨v,read,isIssue,.inl inUnits⟩
        · obtain rfl | member := List.mem_cons.mp member
          · cases found
            obtain ⟨prior,inUnits,equal⟩ := known
            exact .inr ⟨v,read,isIssue,.inl ⟨prior,inUnits,equal.trans same⟩⟩
          · exact .inr ⟨v,read,isIssue,.inr ⟨prior,member,w,found,same⟩⟩
  raised e := by
    rw [h.raised e,exists_place_cons]
    simp [not_broken_ok]
  nodup := h.nodup
  length := by
    have := h.length
    simp only [List.length_cons] at this ⊢
    omega

theorem Walked.keep {u : UnitObservation} (fresh : ∀ prior ∈ s.units, prior.canonicalId ≠ u.canonicalId)
    (h : Walked rs { s with units := s.units ++ [u] } result) : Walked ((row,.ok u) :: rs) s result where
  rest := h.rest
  units v := by
    rw [h.units v,exists_place_cons,List.mem_append,List.mem_singleton,or_assoc]
    refine or_congr_right (or_congr ?_ ?_)
    · constructor
      · rintro rfl
        exact ⟨rfl,by simp,fresh,by simp⟩
      · rintro ⟨read,-⟩
        cases read
        rfl
    · constructor
      · rintro ⟨before,r,after,split,read,sound,others,first⟩
        obtain ⟨others,differs⟩ := List.forall_mem_append.mp others
        refine ⟨before,r,after,split,read,?_,others,?_⟩
        · exact List.forall_mem_cons.mpr ⟨not_broken_ok row u,sound⟩
        · refine List.forall_mem_cons.mpr ⟨?_,first⟩
          rintro _ ⟨⟩
          exact differs u List.mem_cons_self
      · rintro ⟨before,r,after,split,read,sound,others,first⟩
        obtain ⟨differs,first⟩ := List.forall_mem_cons.mp first
        refine ⟨before,r,after,split,read,(List.forall_mem_cons.mp sound).2,List.forall_mem_append.mpr ⟨others,?_⟩,first⟩
        exact List.forall_mem_singleton.mpr (differs u rfl)
  issues issue := by
    rw [h.issues issue,exists_place_cons]
    refine or_congr_right ?_
    constructor
    · rintro ⟨before,r,after,split,sound,noted⟩
      refine .inr ⟨before,r,after,split,List.forall_mem_cons.mpr ⟨not_broken_ok row u,sound⟩,?_⟩
      obtain noted | ⟨v,read,isIssue,⟨prior,member,same⟩ | ⟨prior,member,found⟩⟩ := noted
      · exact .inl noted
      · obtain member | member := List.mem_append.mp member
        · exact .inr ⟨v,read,isIssue,.inl ⟨prior,member,same⟩⟩
        · cases List.mem_singleton.mp member
          exact .inr ⟨v,read,isIssue,.inr ⟨(row,.ok u),List.mem_cons_self,u,rfl,same⟩⟩
      · exact .inr ⟨v,read,isIssue,.inr ⟨prior,List.mem_cons_of_mem _ member,found⟩⟩
    · rintro (⟨-,⟨e,read,-⟩ | ⟨v,read,-,⟨prior,member,same⟩ | ⟨prior,member,-⟩⟩⟩ | ⟨before,r,after,split,sound,noted⟩)
      · cases read
      · cases read
        exact absurd same (fresh prior member)
      · cases member
      · refine ⟨before,r,after,split,(List.forall_mem_cons.mp sound).2,?_⟩
        obtain noted | ⟨v,read,isIssue,⟨prior,member,same⟩ | ⟨prior,member,w,found,same⟩⟩ := noted
        · exact .inl noted
        · exact .inr ⟨v,read,isIssue,.inl ⟨prior,List.mem_append_left _ member,same⟩⟩
        · obtain rfl | member := List.mem_cons.mp member
          · cases found
            exact .inr ⟨v,read,isIssue,.inl ⟨u,List.mem_append_right _ List.mem_cons_self,same⟩⟩
          · exact .inr ⟨v,read,isIssue,.inr ⟨prior,member,w,found,same⟩⟩
  raised e := by
    rw [h.raised e,exists_place_cons]
    simp [not_broken_ok]
  nodup distinct := by
    refine h.nodup ?_
    rw [List.map_append,List.map_singleton]
    refine List.Nodup.append distinct (List.nodup_singleton _) ?_
    simpa [List.disjoint_singleton] using fresh
  length := by
    have := h.length
    simp only [List.length_cons,List.length_append,List.length_nil] at this ⊢
    omega

theorem Walked.skip {e : Raised} (sound : e.transport = false)
    (h : Walked rs { s with issues := s.issues ++ [.unitReadFailed row.name e] } result) : Walked ((row,.error e) :: rs) s result where
  rest := h.rest
  units v := by
    rw [h.units v,exists_place_cons]
    simp only [List.forall_mem_cons,broken_error,sound,reduceCtorEq,Bool.false_eq_true,not_false_eq_true,false_and,false_or,
      true_and,false_imp_iff,implies_true]
  issues issue := by
    rw [h.issues issue,exists_place_cons,List.mem_append,List.mem_singleton,or_assoc]
    refine or_congr_right (or_congr ?_ ?_)
    · simp [sound]
    · simp only [List.forall_mem_cons,List.exists_mem_cons_iff,broken_error,sound,reduceCtorEq,Bool.false_eq_true,
        not_false_eq_true,false_and,exists_false,false_or,true_and]
  raised e' := by
    rw [h.raised e',exists_place_cons]
    simp only [List.forall_mem_cons,broken_error,sound]
    refine (or_iff_right ?_).symm.trans (or_congr_right (by simp))
    rintro ⟨-,read,broken⟩
    cases read
    rw [sound] at broken
    cases broken
  nodup := h.nodup
  length := by
    have := h.length
    simp only [List.length_cons] at this ⊢
    omega

theorem Walked.stop {e : Raised} (broken : e.transport = true) : Walked ((row,.error e) :: rs) s (s,some e) where
  rest := ⟨rfl,rfl,rfl,rfl,rfl⟩
  units v := by
    rw [exists_place_cons]
    simp only [List.forall_mem_cons,broken_error,broken,reduceCtorEq,not_true_eq_false,false_and,and_false,exists_false,
      or_self,or_false]
  issues issue := by
    rw [exists_place_cons]
    simp only [List.forall_mem_cons,broken_error,broken,reduceCtorEq,not_true_eq_false,false_and,and_false,exists_false,
      or_false,Except.error.injEq,exists_eq_left',Bool.true_eq_false]
  raised e' := by
    rw [exists_place_cons]
    simp only [List.forall_mem_cons,broken_error,broken]
    constructor
    · rintro ⟨⟩
      exact .inl ⟨by simp,rfl,broken⟩
    · rintro (⟨-,read,-⟩ | ⟨-,-,-,-,⟨clash,-⟩,-⟩)
      · cases read
        rfl
      · exact (clash trivial).elim
  nodup distinct := distinct
  length := by simp

theorem walked (rs : List Reading) (s : Locals) : Walked rs s (walk rs s) := by
  induction rs generalizing s with
  | nil => exact ⟨⟨rfl,rfl,rfl,rfl,rfl⟩,by simp [walk],by simp [walk],by simp [walk],fun h => h,by simp [walk]⟩
  | cons r rs ih =>
    obtain ⟨row,e | u⟩ := r
    · rw [walk]
      split
      case isTrue broken => exact .stop broken
      case isFalse sound => exact .skip (by simpa using sound) (ih _)
    · rw [walk]
      split
      case isTrue known => exact .collapse (by simpa using known) (ih _)
      case isFalse fresh => exact .keep (by simpa using fresh) (ih _)

end Loop

section Batch

/-- How the batch is made once the connection is done with. -/
def concluded (config : Config) (s : Locals) : Option Raised → UnitBatch
  | none => batchOf config s false
  | some e =>
    if e.timedOut then
      if s.listedCount.isNone then failedBatch config s.providerVersion "inventory_timeout" (some e)
      else batchOf config { s with issues := s.issues ++ [.inventoryTimeout s.units.length e] } true
    else if s.units = [] then failedBatch config s.providerVersion "system_manager_read_failed" (some e)
    else batchOf config { s with issues := s.issues ++ [.inventoryInterrupted e] } false

/-- What a batch says of what was read before it was made. -/
structure Concluded (s : Locals) (raised : Option Raised) (batch : UnitBatch) : Prop where
  units : batch.units = sortBy (fun u => codes u.canonicalId) s.units
  empty : batch.status = .failed → s.units = []
  kept : batch.status = .failed ∨ batch.truncated = s.truncated ∧ (∀ issue ∈ s.issues, issue ∈ batch.issues) ∧
    (raised ≠ none → ∃ e n, .inventoryTimeout n e ∈ batch.issues ∨ .inventoryInterrupted e ∈ batch.issues)
  complete : batch.inventoryComplete = true ↔ raised = none ∧ s.truncated = false ∧ ∀ issue ∈ s.issues, issue.breaks = false

theorem batchOf_not_failed (s : Locals) (timedOut : Bool) : (batchOf config s timedOut).status ≠ .failed := by
  rw [batchOf]
  split <;> simp

theorem concluded_sound {s : Locals} (listed : s.listedCount.isSome = true) (raised : Option Raised) :
    Concluded s raised (concluded config s raised) := by
  cases raised with
  | none =>
    refine ⟨rfl,fun failed => absurd failed (batchOf_not_failed s false),?_,by simp [concluded,batchOf]⟩
    exact .inr ⟨rfl,fun _ member => member,fun none => absurd rfl none⟩
  | some e =>
    rw [concluded]
    split
    case isTrue =>
      rw [if_neg (by simpa using Option.isSome_iff_ne_none.mp listed)]
      refine ⟨rfl,fun failed => absurd failed (batchOf_not_failed _ _),?_,by simp [batchOf]⟩
      refine .inr ⟨rfl,fun _ member => List.mem_append_left _ member,fun _ => ⟨e,s.units.length,.inl ?_⟩⟩
      exact List.mem_append_right _ List.mem_cons_self
    case isFalse =>
      split
      case isTrue none => exact ⟨by rw [none]; rfl,fun _ => none,.inl rfl,by simp [failedBatch]⟩
      case isFalse =>
        refine ⟨rfl,fun failed => absurd failed (batchOf_not_failed _ _),?_,?_⟩
        · refine .inr ⟨rfl,fun _ member => List.mem_append_left _ member,fun _ => ⟨e,0,.inr ?_⟩⟩
          exact List.mem_append_right _ List.mem_cons_self
        · simp [batchOf,Issue.breaks,Issue.code]

/-- What the loop starts from, once the rows are listed. -/
structure Started (config : Config) (rows : List Row) (s : Locals) : Prop where
  units : s.units = []
  listed : s.listedCount.isSome = true
  truncated : s.truncated = decide (config.maxUnits < (selectedRows rows).length)
  noted : (∃ row ∈ rows, row.readable = false) → ∃ n, .rowsUnreadable n ∈ s.issues
  breaks : (∀ issue ∈ s.issues, issue.breaks = false) ↔ ∀ row ∈ rows, row.readable = true

theorem malformedRows_ne_zero (rows : List Row) : malformedRows rows ≠ 0 ↔ ∃ row ∈ rows, row.readable = false := by
  simp [malformedRows]

theorem breaks_managerIssues (properties : Properties) (issue : Issue) (member : issue ∈ managerIssues properties) :
    issue.breaks = false := by
  rw [managerIssues] at member
  obtain member | member := List.mem_append.mp member
  all_goals
    split at member
    · cases List.mem_singleton.mp member
      rfl
    · cases member

theorem breaks_listIssues (rows : List Row) :
    (∀ issue ∈ listIssues config rows, issue.breaks = false) ↔ ∀ row ∈ rows, row.readable = true := by
  have unreadable := malformedRows_ne_zero rows
  rw [listIssues]
  constructor
  · intro silent row member
    by_contra broken
    have some_broken : malformedRows rows ≠ 0 := unreadable.mpr ⟨row,member,by simpa using broken⟩
    rw [if_pos some_broken] at silent
    have := silent _ (List.mem_append_left _ List.mem_cons_self)
    simp [Issue.breaks,Issue.code] at this
  · intro readable issue member
    have none_broken : ¬malformedRows rows ≠ 0 := fun broken => by
      obtain ⟨row,member,broken⟩ := unreadable.mp broken
      simp [readable row member] at broken
    rw [if_neg none_broken,List.nil_append] at member
    split at member
    · cases List.mem_singleton.mp member
      rfl
    · cases member

theorem started (properties : Properties) (rows : List Row) (method : Text) : Started config rows
    { issues := managerIssues properties ++ listIssues config rows
      providerVersion := textOrNone (property properties "Version")
      listedCount := some (selectedRows rows).length
      inventoryMethod := some method
      truncated := config.maxUnits < (selectedRows rows).length
      capReached := config.maxUnits ≤ (selectedRows rows).length } where
  units := rfl
  listed := rfl
  truncated := rfl
  noted broken := by
    refine ⟨malformedRows rows,List.mem_append_right _ (List.mem_append_left _ ?_)⟩
    rw [if_pos ((malformedRows_ne_zero rows).mpr broken)]
    exact List.mem_cons_self
  breaks := by
    rw [List.forall_mem_append,breaks_listIssues]
    exact and_iff_right (breaks_managerIssues properties)

/-- The close of the connection has the last word. -/
def closed (m : Manager) (raised : Option Raised) : Option Raised :=
  match m.close with
  | .error e => some e
  | .ok _ => raised

theorem closed_eq_none {raised : Option Raised} : closed m raised = none ↔ m.close = .ok () ∧ raised = none := by
  rw [closed]
  cases m.close <;> simp

theorem observeUnits_eq (present : m.runtimeMissing = false) :
    observeUnits config m = concluded config (connected config m).1 (connected config m).2 := by
  rw [observeUnits,present]
  rfl

theorem concluded_nothing {s : Locals} (nothing : s.units = []) (unlisted : s.listedCount = none) (e : Raised) :
    ∃ version reason failure, concluded config s (some e) = failedBatch config version reason failure := by
  rw [concluded]
  split
  · exact ⟨_,_,_,if_pos (by rw [unlisted]; rfl)⟩
  · exact ⟨_,_,_,rfl⟩

theorem closed_some (e : Raised) : ∃ e', closed m (some e) = some e' := by
  rw [closed]
  cases m.close with
  | error e' => exact ⟨e',rfl⟩
  | ok _ => exact ⟨e,rfl⟩

theorem connected_eq (h : m.connect = .ok ()) : connected config m = ((inventory config m).1,closed m (inventory config m).2) := by
  rw [connected,h]
  dsimp only
  rw [closed]
  cases m.close <;> rfl

theorem observeUnits_unlisted (h : listing config m = none) :
    ∃ version reason failure, observeUnits config m = failedBatch config version reason failure := by
  cases missing : m.runtimeMissing with
  | true => exact ⟨none,"systemd_system_manager_absent",none,by rw [observeUnits,missing]; rfl⟩
  | false =>
    rw [observeUnits_eq missing]
    cases connect : m.connect with
    | error e =>
      rw [connected,connect]
      exact concluded_nothing rfl rfl e
    | ok _ =>
      rw [connected_eq connect,inventory]
      cases manager : remainingTimeout config m m.managerClock >>= m.managerProperties with
      | error e =>
        obtain ⟨e',raised⟩ := closed_some (m := m) e
        rw [raised]
        exact concluded_nothing rfl rfl e'
      | ok properties =>
        cases rows : remainingTimeout config m m.listClock >>= m.listLoadedUnits with
        | error e =>
          obtain ⟨e',raised⟩ := closed_some (m := m) e
          rw [raised]
          exact concluded_nothing rfl rfl e'
        | ok answer =>
          rw [listing,missing,connect,manager,rows] at h
          cases h

theorem observeUnits_listed {rows : List Row} (h : listing config m = some rows) : ∃ base s raised, Started config rows base ∧
    Walked (readings config m) base (s,raised) ∧ Concluded s (closed m raised) (observeUnits config m) := by
  have listed := h
  rw [listing] at h
  split at h
  case h_2 => cases h
  case h_1 properties answered method present connect manager rowsRead =>
    cases h
    have start : Started config rows _ := started properties rows method
    refine ⟨_,_,_,start,walked (readings config m) _,?_⟩
    rw [observeUnits_eq present,connected_eq connect,inventory,manager,rowsRead]
    dsimp only
    rw [readRows_eq,readings,listed]
    refine concluded_sound ?_ _
    rw [(walked _ _).rest.2.1]
    rfl

end Batch

section Answer

/-- What holds somewhere in a list holds at a first place. -/
theorem exists_first {α : Type} {p : α → Prop} {as : List α} (h : ∃ a ∈ as, p a) :
    ∃ before r after, as = before ++ r :: after ∧ (∀ prior ∈ before, ¬p prior) ∧ p r := by
  induction as with
  | nil =>
    obtain ⟨a,member,-⟩ := h
    cases member
  | cons a as ih =>
    by_cases held : p a
    · exact ⟨[],a,as,rfl,by simp,held⟩
    · obtain ⟨before,r,after,rfl,others,found⟩ := ih (by simpa [held] using h)
      exact ⟨a :: before,r,after,rfl,List.forall_mem_cons.mpr ⟨held,others⟩,found⟩

theorem readings_unlisted (h : listing config m = none) : readings config m = [] := by
  rw [readings,h]
  simp [selectedRows,readingsFrom,sortBy]

theorem mem_readings {rows : List Row} (h : listing config m = some rows) (row : Row) :
    (∃ r ∈ readings config m, r.1 = row) ↔ row ∈ (selectedRows rows).take config.maxUnits := by
  rw [readings,h,readingsFrom]
  simp only [Option.getD_some,List.mem_mapIdx]
  constructor
  · rintro ⟨_,⟨i,bound,rfl⟩,rfl⟩
    exact List.getElem_mem bound
  · intro member
    obtain ⟨i,bound,rfl⟩ := List.getElem_of_mem member
    exact ⟨_,⟨i,bound,rfl⟩,rfl⟩

theorem length_readings : (readings config m).length ≤ config.maxUnits := by
  rw [readings,readingsFrom,List.length_mapIdx]
  exact List.length_take_le ..

/-- A unit is kept where it was the first to be read under its canonical name. -/
theorem mem_units (u : UnitObservation) : u ∈ (observeUnits config m).units ↔
    ∃ (before : List Reading) (r : Reading) (after : List Reading), readings config m = before ++ r :: after ∧ r.2 = .ok u ∧
    (∀ prior ∈ before, ¬prior.broken) ∧ ∀ prior ∈ before, ∀ u', prior.2 = .ok u' → u'.canonicalId ≠ u.canonicalId := by
  cases h : listing config m with
  | none =>
    obtain ⟨version,reason,failure,batch⟩ := observeUnits_unlisted h
    rw [batch,readings_unlisted h]
    simp [failedBatch]
  | some rows =>
    obtain ⟨base,s,raised,start,loop,batch⟩ := observeUnits_listed h
    rw [batch.units,SortBy.mem,loop.units u,start.units]
    simp

theorem units_nodup : ((observeUnits config m).units.map (·.canonicalId)).Nodup := by
  cases h : listing config m with
  | none =>
    obtain ⟨version,reason,failure,batch⟩ := observeUnits_unlisted h
    rw [batch]
    exact List.nodup_nil
  | some rows =>
    obtain ⟨base,s,raised,start,loop,batch⟩ := observeUnits_listed h
    rw [batch.units]
    refine ((SortBy.perm s.units).map _).nodup_iff.mpr (loop.nodup ?_)
    rw [start.units]
    exact List.nodup_nil

theorem units_ordered : (observeUnits config m).units.Pairwise fun u v => codes u.canonicalId ≤ codes v.canonicalId := by
  cases h : listing config m with
  | none =>
    obtain ⟨version,reason,failure,batch⟩ := observeUnits_unlisted h
    rw [batch]
    exact .nil
  | some rows =>
    obtain ⟨base,s,raised,start,loop,batch⟩ := observeUnits_listed h
    rw [batch.units]
    exact SortBy.sorted s.units

theorem units_bounded : (observeUnits config m).units.length ≤ config.maxUnits := by
  cases h : listing config m with
  | none =>
    obtain ⟨version,reason,failure,batch⟩ := observeUnits_unlisted h
    rw [batch]
    exact Nat.zero_le _
  | some rows =>
    obtain ⟨base,s,raised,start,loop,batch⟩ := observeUnits_listed h
    rw [batch.units,(SortBy.perm s.units).length_eq]
    have := loop.length
    rw [start.units,List.length_nil,Nat.zero_add] at this
    exact this.trans length_readings

theorem failed_empty (h : (observeUnits config m).status = .failed) : (observeUnits config m).units = [] := by
  cases listed : listing config m with
  | none =>
    obtain ⟨version,reason,failure,batch⟩ := observeUnits_unlisted listed
    rw [batch]
    rfl
  | some rows =>
    obtain ⟨base,s,raised,start,loop,batch⟩ := observeUnits_listed listed
    rw [batch.units,batch.empty h]
    rfl

/-- The inventory calls itself complete exactly when nothing disturbed it. -/
theorem complete_iff : (observeUnits config m).inventoryComplete = true ↔ Undisturbed config m := by
  cases listed : listing config m with
  | none =>
    obtain ⟨version,reason,failure,batch⟩ := observeUnits_unlisted listed
    constructor
    · rw [batch]
      rintro ⟨⟩
    · rintro ⟨-,⟨rows,some,-⟩,-⟩
      rw [listed] at some
      cases some
  | some rows =>
    obtain ⟨base,s,raised,start,loop,batch⟩ := observeUnits_listed listed
    rw [batch.complete,closed_eq_none]
    constructor
    · rintro ⟨⟨close,whole⟩,uncut,silent⟩
      have sound : ∀ r ∈ readings config m, ¬r.broken := by
        intro r member broken
        obtain ⟨before,r,after,split,others,e,read,transport⟩ := exists_first ⟨r,member,broken⟩
        have := (loop.raised e).mpr ⟨before,r,after,split,others,read,transport⟩
        rw [whole] at this
        cases this
      refine ⟨close,⟨rows,listed,?_,?_⟩,?_⟩
      · refine start.breaks.mp fun issue member => silent issue ?_
        exact (loop.issues issue).mpr (.inl member)
      · have := loop.rest.2.2.2.1.symm.trans uncut
        rw [start.truncated] at this
        simpa using this
      · intro r member
        obtain ⟨before,after,split⟩ := List.append_of_mem member
        cases read : r.2 with
        | ok u => exact ⟨u,rfl⟩
        | error e =>
          cases transport : e.transport with
          | true => exact absurd ⟨e,read,transport⟩ (sound r member)
          | false =>
            have noted := (loop.issues (.unitReadFailed r.1.name e)).mpr (.inr ⟨before,r,after,split,?_,.inl ⟨e,read,transport,rfl⟩⟩)
            · have := silent _ noted
              simp [Issue.breaks,Issue.code] at this
            · exact fun prior earlier => sound prior (split ▸ List.mem_append_left _ earlier)
    · rintro ⟨close,⟨rows',some,readable,few⟩,read⟩
      rw [listed] at some
      cases some
      refine ⟨⟨close,?_⟩,?_,?_⟩
      · cases h : raised with
        | none => rfl
        | some e =>
          obtain ⟨before,r,after,split,-,failed,-⟩ := (loop.raised e).mp h
          obtain ⟨u,ok⟩ := read r (split ▸ List.mem_append_right _ List.mem_cons_self)
          rw [ok] at failed
          cases failed
      · rw [loop.rest.2.2.2.1,start.truncated]
        simpa using few
      · intro issue member
        obtain member | ⟨before,r,after,split,-,⟨e,failed,-⟩ | ⟨u,-,rfl,-⟩⟩ := (loop.issues issue).mp member
        · exact start.breaks.mpr readable issue member
        · obtain ⟨u,ok⟩ := read r (split ▸ List.mem_append_right _ List.mem_cons_self)
          rw [ok] at failed
          cases failed
        · rfl

theorem represented_iff (name : Text) : Represented config m name ↔ Carried config m name := by
  constructor
  · rintro ⟨u,member,carries⟩
    obtain ⟨before,r,after,split,read,sound,first⟩ := (mem_units u).mp member
    exact ⟨before,r,after,u,split,read,sound,first,carries⟩
  · rintro ⟨before,r,after,u,split,read,sound,first,carries⟩
    exact ⟨u,(mem_units u).mpr ⟨before,r,after,split,read,sound,first⟩,carries⟩

/-- A row is lost without a word only where its unit was read and kept. -/
theorem explained_or_kept {before after : List Reading} {r : Reading} (split : readings config m = before ++ r :: after) :
    Explained config m before r ∨ ∃ u, r.2 = .ok u ∧ (∀ prior ∈ before, ¬prior.broken) ∧
      ∀ prior ∈ before, ∀ u', prior.2 = .ok u' → u'.canonicalId ≠ u.canonicalId := by
  cases listed : listing config m with
  | none =>
    rw [readings_unlisted listed] at split
    simp at split
  | some rows =>
    obtain ⟨base,s,raised,start,loop,batch⟩ := observeUnits_listed listed
    obtain failed | ⟨-,noted,interrupted⟩ := batch.kept
    · exact .inl (.inl failed)
    have lost (early : ∃ prior ∈ before ++ [r], prior.broken) : Explained config m before r := by
      refine .inr (.inr (.inr ⟨early,interrupted ?_⟩))
      obtain ⟨prior,member,broken⟩ := early
      have there : prior ∈ readings config m := by
        rw [split,List.append_cons]
        exact List.mem_append_left _ member
      obtain ⟨front,first,back,place,others,e,read,transport⟩ := exists_first ⟨prior,there,broken⟩
      intro none
      have := (closed_eq_none.mp none).2.symm.trans ((loop.raised e).mpr ⟨front,first,back,place,others,read,transport⟩)
      cases this
    by_cases sound : ∀ prior ∈ before, ¬prior.broken
    · cases read : r.2 with
      | error e =>
        cases transport : e.transport with
        | true => exact .inl (lost ⟨r,by simp,e,read,transport⟩)
        | false =>
          refine .inl (.inr (.inl ⟨e,read,noted _ ?_⟩))
          exact (loop.issues _).mpr (.inr ⟨before,r,after,split,sound,.inl ⟨e,read,transport,rfl⟩⟩)
      | ok u =>
        by_cases known : ∃ prior ∈ before, ∃ u', prior.2 = .ok u' ∧ u'.canonicalId = u.canonicalId
        · refine .inl (.inr (.inr (.inl ⟨u,read,known,noted _ ?_⟩)))
          exact (loop.issues _).mpr (.inr ⟨before,r,after,split,sound,.inr ⟨u,read,rfl,.inr known⟩⟩)
        · refine .inr ⟨u,rfl,sound,?_⟩
          intro prior member u' found same
          exact known ⟨prior,member,u',found,same⟩
    · push Not at sound
      obtain ⟨prior,member,broken⟩ := sound
      exact .inl (lost ⟨prior,List.mem_append_left _ member,broken⟩)

end Answer

/-- An inventory is truthful exactly when every row whose unit was read is carried by a unit that is kept. -/
theorem truthful_iff (config : Config) (m : Manager) : Truthful config m ↔ NamesCarried config m := by
  constructor
  · intro h before r after u split read sound owed
    refine (represented_iff _).mp ?_
    obtain first | undisturbed := owed
    · have kept := (mem_units u).mpr ⟨before,r,after,split,read,sound,first⟩
      obtain represented | failed | ⟨e,error,-⟩ | ⟨v,ok,⟨prior,member,u',found,same⟩,-⟩ | ⟨⟨prior,member,broken⟩,-⟩ :=
        h.explained before r after split
      · exact represented
      · rw [failed_empty failed] at kept
        cases kept
      · rw [read] at error
        cases error
      · rw [read] at ok
        cases ok
        exact absurd same (first prior member u' found)
      · obtain member | member := List.mem_append.mp member
        · exact absurd broken (sound prior member)
        · cases List.mem_singleton.mp member
          obtain ⟨e,error,-⟩ := broken
          rw [read] at error
          cases error
    · obtain ⟨rows,listed,-,-,-,all⟩ := h.complete (complete_iff.mpr undisturbed)
      have selected := List.mem_of_mem_take ((mem_readings listed r.1).mp ⟨r,split ▸ List.mem_append_right _ List.mem_cons_self,rfl⟩)
      rw [selectedRows,SortBy.mem,List.mem_filter] at selected
      exact all r.1 selected.1 selected.2
  · intro carried
    refine ⟨units_nodup,units_ordered,units_bounded,?complete,?explained,?cut,?unreadable⟩
    case complete =>
      intro complete
      obtain ⟨close,⟨rows,listed,readable,few⟩,read⟩ := complete_iff.mp complete
      refine ⟨rows,listed,readable,few,read,?_⟩
      intro row member supported
      have selected : row ∈ (selectedRows rows).take config.maxUnits := by
        rw [List.take_of_length_le few,selectedRows,SortBy.mem]
        exact List.mem_filter.mpr ⟨member,supported⟩
      obtain ⟨r,there,rfl⟩ := (mem_readings listed row).mpr selected
      obtain ⟨before,after,split⟩ := List.append_of_mem there
      obtain ⟨u,ok⟩ := read r there
      refine (represented_iff _).mpr (carried before r after u split ok ?_ (.inr ⟨close,⟨rows,listed,readable,few⟩,read⟩))
      rintro prior earlier ⟨e,error,-⟩
      obtain ⟨v,ok⟩ := read prior (split ▸ List.mem_append_left _ earlier)
      rw [ok] at error
      cases error
    case explained =>
      intro before r after split
      obtain explained | ⟨u,read,sound,first⟩ := explained_or_kept split
      · exact .inr explained
      · exact .inl ((represented_iff _).mpr (carried before r after u split read sound (.inl first)))
    case cut =>
      intro rows listed row member
      obtain ⟨base,s,raised,start,loop,batch⟩ := observeUnits_listed listed
      obtain failed | ⟨truncated,-⟩ := batch.kept
      · exact .inr (.inl failed)
      · refine .inr (.inr ?_)
        rw [truncated,loop.rest.2.2.2.1,start.truncated]
        have := List.length_pos_of_mem member
        rw [List.length_drop] at this
        exact decide_eq_true (by omega)
    case unreadable =>
      intro rows listed row member broken
      obtain ⟨base,s,raised,start,loop,batch⟩ := observeUnits_listed listed
      obtain failed | ⟨-,noted,-⟩ := batch.kept
      · exact .inl failed
      · obtain ⟨n,counted⟩ := start.noted ⟨row,member,broken⟩
        exact .inr ⟨n,noted _ ((loop.issues _).mpr (.inl counted))⟩
def renamedRow : Row := ⟨some (["a.service","","loaded","active","running","","/a"].map fun t => .text t.toList)⟩

/-- One row is listed, and its object path answers for another unit. -/
def renamed : Manager where
  runtimeMissing := false
  startedClock := 0
  connect := .ok ()
  managerClock := 0
  managerProperties _ := .ok []
  listClock := 0
  listLoadedUnits _ := .ok ([renamedRow],"ListUnits".toList)
  unitClock _ := 0
  unitProperties _ _ _ := .ok [("Id".toList,.text "b.service".toList),("Names".toList,.list [some "b.service".toList])]
  typeClock _ := 0
  typeProperties _ _ _ _ := .ok []
  close := .ok ()

def tenUnits : Config := ⟨5,20,10⟩

theorem complete_without_its_row : listing tenUnits renamed = some [renamedRow] ∧ rowIsSupported renamedRow = true ∧
    (observeUnits tenUnits renamed).inventoryComplete = true ∧ (observeUnits tenUnits renamed).units =
      [⟨"b.service".toList,some ["b.service".toList],"service".toList,false,"a.service".toList⟩] ∧ ¬Truthful tenUnits renamed := by
  have listed : listing tenUnits renamed = some [renamedRow] := by decide +kernel
  have supported : rowIsSupported renamedRow = true := by decide +kernel
  have complete : (observeUnits tenUnits renamed).inventoryComplete = true := by decide +kernel
  have units : (observeUnits tenUnits renamed).units =
      [⟨"b.service".toList,some ["b.service".toList],"service".toList,false,"a.service".toList⟩] := by decide +kernel
  refine ⟨listed,supported,complete,units,fun truthful => ?_⟩
  obtain ⟨rows,some,-,-,-,all⟩ := truthful.complete complete
  cases listed.symm.trans some
  obtain ⟨u,member,carries⟩ := all renamedRow List.mem_cons_self supported
  rw [units] at member
  cases List.mem_singleton.mp member
  obtain same | ⟨names,same,named⟩ := carries
  · exact absurd same (by decide +kernel)
  · cases same
    exact absurd named (by decide +kernel)

end LoadedUnits
end LocalPlane
