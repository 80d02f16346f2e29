import LocalPlane.Machine
import Mathlib.Data.List.Basic

/-!
# Transactions on the shared connection

All threads share one connection under a reentrant lock. A block holds the lock from its
BEGIN to its COMMIT or ROLLBACK, so what it leaves behind is what every later statement of
any thread is executed in. Each statement of SQL may fail, and a failed statement may take
the transaction with it.
-/

set_option linter.dupNamespace false

namespace LocalPlane
namespace Database

/-- What a row was written by: a statement of some block, or a statement of its own. -/
inductive Origin where
  | block (id : ℕ)
  | alone (id : ℕ)
  deriving DecidableEq

structure Write (W : Type) where
  origin : Origin
  row : W

def Origin.id : Origin → ℕ
  | .block id | .alone id => id

def rowsOf {W : Type} (origin : Origin) (writes : List (Write W)) : List W :=
  (writes.filter (·.origin = origin)).map Write.row

section Rows

variable {W : Type} {origin other : Origin}

@[simp] theorem rowsOf_nil : rowsOf (W := W) origin [] = [] := rfl

@[simp] theorem rowsOf_append (writes more : List (Write W)) :
    rowsOf origin (writes ++ more) = rowsOf origin writes ++ rowsOf origin more := by
  simp [rowsOf]

@[simp] theorem rowsOf_own (rows : List W) : rowsOf origin (rows.map (Write.mk origin)) = rows := by
  induction rows with
  | nil => rfl
  | cons row rows ih =>
    simp only [rowsOf,List.map_cons,List.filter_cons,decide_true,if_true] at ih ⊢
    rw [ih]

theorem rowsOf_other (h : other ≠ origin) (rows : List W) : rowsOf origin (rows.map (Write.mk other)) = [] := by
  induction rows with
  | nil => rfl
  | cons row rows ih =>
    simp only [rowsOf,List.map_cons,List.filter_cons,h,decide_false,Bool.false_eq_true,if_false] at ih ⊢
    exact ih

end Rows

/-- The connection: what is in the file, and what an open transaction has not put there yet. -/
structure Connection (W : Type) where
  durable : List (Write W)
  pending : Option (List (Write W))

/-- What a statement came to: it succeeds, it fails, or it fails and SQLite ends the transaction.
A batch that fails may have written some of its rows. -/
inductive Executed (W : Type) where
  | done (rows : List W)
  | failed (rows : List W)
  | aborted (rows : List W)

def Executed.rows {W : Type} : Executed W → List W
  | .done rows | .failed rows | .aborted rows => rows

namespace Connection

variable {W : Type} (c : Connection W)

/-- BEGIN IMMEDIATE is refused inside a transaction and may fail outside one. -/
def begin (granted : Bool) : Option (Connection W) :=
  if granted ∧ c.pending.isNone then some { c with pending := some [] } else none

def execute (origin : Origin) (executed : Executed W) : Connection W :=
  let writes := executed.rows.map (Write.mk origin)
  match c.pending with
  | none => { c with durable := c.durable ++ writes }
  | some pending =>
    match executed with
    | .aborted _ => { c with pending := none }
    | _ => { c with pending := some (pending ++ writes) }

/-- COMMIT fails where there is nothing to commit; a COMMIT that fails leaves the transaction active. -/
def commit (granted : Bool) : Option (Connection W) :=
  match c.pending with
  | some pending => if granted then some ⟨c.durable ++ pending,none⟩ else none
  | none => none

def rollback (granted : Bool) : Option (Connection W) :=
  match c.pending with
  | some _ => if granted then some { c with pending := none } else none
  | none => none

end Connection

/-- How a block ended: by return or by exception, inside another block or not, and whether the
connection was left inside a transaction. -/
structure Ending where
  block : ℕ
  nested : Bool
  returned : Bool
  inside : Bool

/-- The connection, the acquisitions of its lock with the innermost first, the next number to be
given out, and the record of what was written and which blocks have ended. -/
structure State (T W : Type) where
  connection : Connection W
  held : List (T × ℕ)
  next : ℕ
  issued : List (Write W)
  finished : List Ending

inductive Act (T W : Type) where
  | enter (thread : T) (granted : Bool)
  | execute (thread : T) (executed : Executed W)
  | leave (thread : T) (returned : Bool) (granted : Bool)
  /-- The process ends and the store is opened again. -/
  | restart

namespace State

variable {T W : Type} [DecidableEq T] (s : State T W)

def empty : State T W := ⟨⟨[],none⟩,[],0,[],[]⟩

/-- The lock lets in the thread that holds it, or any thread when nobody does. -/
def available (thread : T) : Bool := s.held.all (·.1 = thread)

def origin : Origin :=
  match s.held with
  | [] => .alone s.next
  | (_,block) :: _ => .block block

/-- A block is entered: its number is given out, and it ends at once when BEGIN raises. -/
def enter (thread : T) (granted : Bool) : State T W :=
  match s.connection.begin granted with
  | some connection => { s with connection, held := (thread,s.next) :: s.held, next := s.next + 1 }
  | none => { s with
      next := s.next + 1
      finished := s.finished ++ [⟨s.next,!s.held.isEmpty,false,s.connection.pending.isSome⟩] }

def execute (executed : Executed W) : State T W :=
  { s with
    connection := s.connection.execute s.origin executed
    next := s.next + 1
    issued := s.issued ++ executed.rows.map (Write.mk s.origin) }

/-- The body of a block is over: COMMIT after a return, ROLLBACK after an exception, and an
exception where either fails. -/
def leave (block : ℕ) (rest : List (T × ℕ)) (returned granted : Bool) : State T W :=
  let ended := if returned then s.connection.commit granted else s.connection.rollback granted
  let connection := ended.getD s.connection
  { s with
    connection
    held := rest
    finished := s.finished ++ [⟨block,!rest.isEmpty,returned && ended.isSome,connection.pending.isSome⟩] }

def restart : State T W := { s with connection := { s.connection with pending := none }, held := [] }

def step : Act T W → Option (State T W)
  | .enter thread granted => if s.available thread then some (s.enter thread granted) else none
  | .execute thread executed => if s.available thread then some (s.execute executed) else none
  | .leave thread returned granted =>
    match s.held with
    | [] => none
    | (holder,block) :: rest => if holder = thread then some (s.leave block rest returned granted) else none
  | .restart => some s.restart

end State

def machine (T W : Type) [DecidableEq T] : Machine where
  State := State T W
  Act := Act T W
  initial s := s = State.empty
  step a s := s.step a

/-- A block that ended, given the rows of it that are in the file and all it wrote: it leaves no
transaction behind and has written everything or nothing. One that was opened inside another block
has only raised. -/
structure Ending.Right {W : Type} (e : Ending) (durable issued : List W) : Prop where
  outside : e.nested = false → e.inside = false
  returned : e.returned = true → durable = issued
  raised : e.returned = false → durable = []
  nested : e.nested = true → e.returned = false ∧ issued = []

/-- Every block that ended was right to, and what is written outside every block is in the file. -/
structure AllOrNothing {T W : Type} (s : State T W) : Prop where
  ended : ∀ e ∈ s.finished, e.Right (rowsOf (.block e.block) s.connection.durable) (rowsOf (.block e.block) s.issued)
  alone : ∀ id, rowsOf (.alone id) s.connection.durable = rowsOf (.alone id) s.issued

/-- A COMMIT or ROLLBACK that has a transaction to end succeeds, and nothing is executed in a block
whose transaction SQLite has ended by itself. -/
def Ends {T W : Type} (s : State T W) : Act T W → Prop
  | .leave _ _ granted => s.connection.pending.isSome = true → granted = true
  | .enter _ _ | .execute _ _ => s.held ≠ [] → s.connection.pending.isSome = true
  | .restart => True

/-! What every step preserves -/

/-- At most one block is open, its transaction holds what it has written so far, and numbers that
have not been given out have written nothing. -/
structure Sound {T W : Type} (s : State T W) : Prop where
  settled : AllOrNothing s
  free : s.held = [] → s.connection.pending = none
  single : ∀ h rest, s.held = h :: rest → rest = []
  unended : ∀ h ∈ s.held, h.2 < s.next ∧ ∀ e ∈ s.finished, e.block ≠ h.2
  unwritten : ∀ h ∈ s.held, rowsOf (.block h.2) s.connection.durable = []
  pending : ∀ h ∈ s.held, ∀ p, s.connection.pending = some p →
    p = (rowsOf (.block h.2) s.issued).map (Write.mk (.block h.2))
  numbered : ∀ e ∈ s.finished, e.block < s.next
  fresh : ∀ origin : Origin, s.next ≤ origin.id → rowsOf origin s.connection.durable = [] ∧ rowsOf origin s.issued = []

namespace Sound

variable {T W : Type} {s : State T W}

/-- What has ended stays right when nothing is added to it. -/
theorem ended_append (h : Sound s) {durable issued : List (Write W)}
    (hdurable : ∀ e ∈ s.finished, rowsOf (.block e.block) durable = [])
    (hissued : ∀ e ∈ s.finished, rowsOf (.block e.block) issued = []) :
    ∀ e ∈ s.finished, e.Right (rowsOf (.block e.block) (s.connection.durable ++ durable))
      (rowsOf (.block e.block) (s.issued ++ issued)) := by
  intro e he
  rw [rowsOf_append,rowsOf_append,hdurable e he,hissued e he,List.append_nil,List.append_nil]
  exact h.settled.ended e he

/-- BEGIN raises and the block ends where it was entered. -/
theorem enter_raised (h : Sound s) (inside : Bool) (hinside : s.held = [] → inside = false) :
    Sound { s with next := s.next + 1, finished := s.finished ++ [⟨s.next,!s.held.isEmpty,false,inside⟩] } where
  settled := by
    obtain ⟨hdurable,hissued⟩ := h.fresh (.block s.next) (Nat.le_refl _)
    refine ⟨fun e he => ?_,h.settled.alone⟩
    rcases List.mem_append.mp he with he | he
    · exact h.settled.ended e he
    · rw [List.mem_singleton.mp he]
      exact ⟨fun hn => hinside (by simpa using hn),fun hr => absurd hr (by simp),fun _ => hdurable,fun _ => ⟨rfl,hissued⟩⟩
  free := h.free
  single := h.single
  unended := by
    intro x hx
    obtain ⟨hlt,hne⟩ := h.unended x hx
    refine ⟨Nat.lt_succ_of_lt hlt,fun e he => ?_⟩
    rcases List.mem_append.mp he with he | he
    · exact hne e he
    · rw [List.mem_singleton.mp he]
      exact (Nat.ne_of_lt hlt).symm
  unwritten := h.unwritten
  pending := h.pending
  numbered := by
    intro e he
    rcases List.mem_append.mp he with he | he
    · exact Nat.lt_succ_of_lt (h.numbered e he)
    · rw [List.mem_singleton.mp he]
      exact Nat.lt_succ_self _
  fresh := fun origin ho => h.fresh origin (Nat.le_of_succ_le ho)

/-- BEGIN opens a transaction in which nothing is written yet. -/
theorem enter_open (h : Sound s) (thread : T) : Sound { s with
    connection := { s.connection with pending := some [] }
    held := [(thread,s.next)]
    next := s.next + 1 } where
  settled := ⟨h.settled.ended,h.settled.alone⟩
  free := by simp
  single := by simp
  unended := by
    intro x hx
    rw [List.mem_singleton.mp hx]
    exact ⟨Nat.lt_succ_self _,fun e he => Nat.ne_of_lt (h.numbered e he)⟩
  unwritten := by
    intro x hx
    rw [List.mem_singleton.mp hx]
    exact (h.fresh (.block s.next) (Nat.le_refl _)).1
  pending := by
    intro x hx p hp
    rw [List.mem_singleton.mp hx,(h.fresh (.block s.next) (Nat.le_refl _)).2]
    exact (Option.some.inj hp).symm
  numbered := fun e he => Nat.lt_succ_of_lt (h.numbered e he)
  fresh := fun origin ho => h.fresh origin (Nat.le_of_succ_le ho)

theorem enter (h : Sound s) {thread : T} {granted : Bool} (ha : Ends s (.enter thread granted)) :
    Sound (s.enter thread granted) := by
  unfold State.enter Connection.begin
  by_cases hfree : s.held = []
  · have hp := h.free hfree
    cases granted with
    | true =>
      simp only [hp,Option.isNone_none,and_self,if_true,hfree]
      exact h.enter_open thread
    | false =>
      simp only [Bool.false_eq_true,false_and,if_false]
      exact h.enter_raised _ fun _ => by rw [hp]; rfl
  · -- inside a block there is a transaction already, and BEGIN is refused
    obtain ⟨p,hp⟩ := Option.isSome_iff_exists.mp (ha hfree)
    simp only [hp,Option.isNone_some,Bool.false_eq_true,and_false,if_false]
    have hraised := h.enter_raised true fun hf => absurd hf hfree
    simpa only [hp,Option.isSome_some] using hraised

/-- A statement of its own is in the file as soon as it is executed. -/
theorem execute_alone (h : Sound s) (hfree : s.held = []) (executed : Executed W) : Sound (s.execute executed) := by
  have hs : s.execute executed = { s with
      connection := { s.connection with durable := s.connection.durable ++ executed.rows.map (Write.mk (.alone s.next)) }
      next := s.next + 1
      issued := s.issued ++ executed.rows.map (Write.mk (.alone s.next)) } := by
    simp [State.execute,State.origin,Connection.execute,hfree,h.free hfree]
  have hblock (b : ℕ) : rowsOf (.block b) (executed.rows.map (Write.mk (.alone s.next))) = [] :=
    rowsOf_other (by simp) _
  rw [hs]
  exact {
    settled := ⟨h.ended_append (fun e _ => hblock _) fun e _ => hblock _,fun id => by simp [h.settled.alone id]⟩
    free := fun _ => h.free hfree
    single := h.single
    unended := fun x hx => absurd hx (by simp [hfree])
    unwritten := fun x hx => absurd hx (by simp [hfree])
    pending := fun x hx => absurd hx (by simp [hfree])
    numbered := fun e he => Nat.lt_succ_of_lt (h.numbered e he)
    fresh := by
      intro origin ho
      obtain ⟨hdurable,hissued⟩ := h.fresh origin (Nat.le_of_succ_le ho)
      have hother : rowsOf origin (executed.rows.map (Write.mk (.alone s.next))) = [] :=
        rowsOf_other (fun he => by rw [← he] at ho; exact Nat.not_succ_le_self _ ho) _
      simp [hdurable,hissued,hother] }

/-- A statement inside a block is added to the block's transaction, or ends it. -/
theorem execute_block (h : Sound s) {t : T} {b : ℕ} (hheld : s.held = [(t,b)]) {p : List (Write W)}
    (hp : s.connection.pending = some p) (executed : Executed W) : Sound (s.execute executed) := by
  have hmem : (t,b) ∈ s.held := hheld ▸ List.mem_singleton_self _
  obtain ⟨hlt,hne⟩ := h.unended _ hmem
  have hown : s.origin = .block b := by simp [State.origin,hheld]
  have hdurable : (s.execute executed).connection.durable = s.connection.durable := by
    cases executed <;> simp [State.execute,Connection.execute,hp]
  have hissued : (s.execute executed).issued = s.issued ++ executed.rows.map (Write.mk (.block b)) := by
    rw [← hown]
    rfl
  have hother {origin : Origin} (ho : Origin.block b ≠ origin) :
      rowsOf origin (executed.rows.map (Write.mk (.block b))) = [] := rowsOf_other ho _
  exact {
    settled := by
      refine ⟨fun e he => ?_,fun id => ?_⟩
      · have hends := h.settled.ended e he
        have hapart : Origin.block b ≠ .block e.block := fun heq => hne e he (Origin.block.inj heq).symm
        rwa [hdurable,hissued,rowsOf_append,hother hapart,List.append_nil]
      · rw [hdurable,hissued,rowsOf_append,hother (by simp),List.append_nil]
        exact h.settled.alone id
    free := fun hf => absurd (hheld ▸ hf : [(t,b)] = []) (by simp)
    single := h.single
    unended := by
      intro x hx
      obtain ⟨hxlt,hxne⟩ := h.unended x hx
      exact ⟨Nat.lt_succ_of_lt hxlt,hxne⟩
    unwritten := by
      intro x hx
      rw [hdurable]
      exact h.unwritten x hx
    pending := by
      intro x hx q hq
      obtain rfl : x = (t,b) := by
        have hx' : x ∈ s.held := hx
        rw [hheld] at hx'
        exact List.mem_singleton.mp hx'
      have hpending := h.pending _ hmem p hp
      rw [hissued,rowsOf_append,rowsOf_own,List.map_append,← hpending]
      cases executed with
      | aborted rows => simp [State.execute,Connection.execute,hp] at hq
      | done rows | failed rows =>
        simp only [State.execute,Connection.execute,hp,hown,Option.some.injEq] at hq
        exact hq.symm
    numbered := fun e he => Nat.lt_succ_of_lt (h.numbered e he)
    fresh := by
      intro origin ho
      have ho' : s.next + 1 ≤ origin.id := ho
      obtain ⟨hfresh,hfresh'⟩ := h.fresh origin (Nat.le_of_succ_le ho')
      have hapart : Origin.block b ≠ origin := by
        rintro rfl
        exact absurd (Nat.lt_succ_of_lt hlt) (Nat.not_lt.mpr ho')
      rw [hdurable,hissued,rowsOf_append,hother hapart,hfresh,hfresh']
      exact ⟨rfl,rfl⟩ }

theorem execute (h : Sound s) {thread : T} {executed : Executed W} (ha : Ends s (.execute thread executed)) :
    Sound (s.execute executed) := by
  cases hheld : s.held with
  | nil => exact h.execute_alone hheld executed
  | cons first rest =>
    obtain ⟨t,b⟩ := first
    obtain rfl := h.single _ _ hheld
    obtain ⟨p,hp⟩ := Option.isSome_iff_exists.mp (ha (by simp [hheld]))
    exact h.execute_block hheld hp executed

/-- The block that ends is the one that is open, and nothing is open after it. -/
theorem leave_to (h : Sound s) {t : T} {b : ℕ} (hheld : s.held = [(t,b)]) {durable : List (Write W)} {returned : Bool}
    (hother : ∀ origin, origin ≠ .block b → rowsOf origin durable = rowsOf origin s.connection.durable)
    (hreturned : returned = true → rowsOf (.block b) durable = rowsOf (.block b) s.issued)
    (hraised : returned = false → rowsOf (.block b) durable = []) :
    Sound ({ s with
      connection := ⟨durable,none⟩
      held := []
      finished := s.finished ++ [⟨b,false,returned,false⟩] } : State T W) := by
  have hmem : (t,b) ∈ s.held := hheld ▸ List.mem_singleton_self _
  obtain ⟨hlt,hne⟩ := h.unended _ hmem
  exact {
    settled := by
      refine ⟨fun e he => ?_,fun id => ?_⟩
      · rcases List.mem_append.mp he with he | he
        · have hapart : Origin.block e.block ≠ .block b := fun heq => hne e he (Origin.block.inj heq)
          rw [hother _ hapart]
          exact h.settled.ended e he
        · rw [List.mem_singleton.mp he]
          exact ⟨fun _ => rfl,hreturned,hraised,fun hn => absurd hn (by simp)⟩
      · rw [hother _ (by simp)]
        exact h.settled.alone id
    free := fun _ => rfl
    single := by simp
    unended := by simp
    unwritten := by simp
    pending := by simp
    numbered := by
      intro e he
      rcases List.mem_append.mp he with he | he
      · exact h.numbered e he
      · rw [List.mem_singleton.mp he]
        exact hlt
    fresh := by
      intro origin ho
      obtain ⟨hfresh,hfresh'⟩ := h.fresh origin ho
      have hapart : origin ≠ .block b := by
        rintro rfl
        exact absurd hlt (Nat.not_lt.mpr ho)
      exact ⟨(hother _ hapart).trans hfresh,hfresh'⟩ }

theorem leave (h : Sound s) {t : T} {b : ℕ} {rest : List (T × ℕ)} (hheld : s.held = (t,b) :: rest) {returned granted : Bool}
    (ha : Ends s (.leave t returned granted)) : Sound (s.leave b rest returned granted) := by
  obtain rfl := h.single _ _ hheld
  have hmem : (t,b) ∈ s.held := hheld ▸ List.mem_singleton_self _
  have hunwritten := h.unwritten _ hmem
  cases hp : s.connection.pending with
  | none =>
    -- SQLite has ended the transaction already: both statements fail and the block raises
    have hs : s.leave b [] returned granted = { s with
        connection := ⟨s.connection.durable,none⟩
        held := []
        finished := s.finished ++ [⟨b,false,false,false⟩] } := by
      have hconnection : s.connection = ⟨s.connection.durable,none⟩ := by rw [← hp]
      cases returned <;> simp [State.leave,Connection.commit,Connection.rollback,hp] <;> exact hconnection
    rw [hs]
    exact h.leave_to hheld (fun _ _ => rfl) (fun hr => absurd hr (by simp)) fun _ => hunwritten
  | some p =>
    obtain rfl : granted = true := ha (by rw [hp]; rfl)
    have hpending := h.pending _ hmem p hp
    cases returned with
    | true =>
      have hs : s.leave b [] true true = { s with
          connection := ⟨s.connection.durable ++ p,none⟩
          held := []
          finished := s.finished ++ [⟨b,false,true,false⟩] } := by
        simp [State.leave,Connection.commit,hp]
      rw [hs]
      refine h.leave_to hheld (fun origin ho => ?_) (fun _ => ?_) fun hr => absurd hr (by simp)
      · rw [rowsOf_append,hpending,rowsOf_other (Ne.symm ho),List.append_nil]
      · rw [rowsOf_append,hunwritten,List.nil_append,hpending,rowsOf_own]
    | false =>
      have hs : s.leave b [] false true = { s with
          connection := ⟨s.connection.durable,none⟩
          held := []
          finished := s.finished ++ [⟨b,false,false,false⟩] } := by
        simp [State.leave,Connection.rollback,hp]
      rw [hs]
      exact h.leave_to hheld (fun _ _ => rfl) (fun hr => absurd hr (by simp)) fun _ => hunwritten

/-- What was pending is lost with the process, and only blocks that never ended had something pending. -/
theorem restart (h : Sound s) : Sound s.restart where
  settled := ⟨h.settled.ended,h.settled.alone⟩
  free := fun _ => rfl
  single := by simp [State.restart]
  unended := by simp [State.restart]
  unwritten := by simp [State.restart]
  pending := by simp [State.restart]
  numbered := h.numbered
  fresh := h.fresh

theorem step [DecidableEq T] (h : Sound s) {a : Act T W} (ha : Ends s a) {s' : State T W} (hs : s.step a = some s') :
    Sound s' := by
  cases a with
  | enter thread granted =>
    simp only [State.step,Option.ite_none_right_eq_some,Option.some.injEq] at hs
    exact hs.2 ▸ h.enter ha
  | execute thread executed =>
    simp only [State.step,Option.ite_none_right_eq_some,Option.some.injEq] at hs
    exact hs.2 ▸ h.execute ha
  | leave thread returned granted =>
    cases hheld : s.held with
    | nil => simp [State.step,hheld] at hs
    | cons first rest =>
      obtain ⟨holder,b⟩ := first
      simp only [State.step,hheld,Option.ite_none_right_eq_some,Option.some.injEq] at hs
      obtain ⟨rfl,rfl⟩ := hs
      exact h.leave hheld ha
  | restart => exact Option.some.inj hs ▸ h.restart

theorem start : Sound (State.empty : State T W) := by
  refine ⟨⟨by simp [State.empty],fun _ => rfl⟩,fun _ => rfl,?_,?_,?_,?_,?_,fun _ _ => ⟨rfl,rfl⟩⟩ <;> simp [State.empty]

end Sound

/-- In every run of any number of threads in which no COMMIT or ROLLBACK of a running transaction
fails, blocks are all or nothing and leave no transaction behind. -/
theorem all_or_nothing_of_ends {T W : Type} [DecidableEq T] {s : (machine T W).State}
    (h : Machine.Reach (machine T W) Ends s) : AllOrNothing s :=
  (h.invariant (I := Sound) (fun s hs => by subst hs; exact Sound.start)
    fun _ s _ (hI : Sound s) ha hs => hI.step ha hs).settled

instance {T W : Type} (s : State T W) : (a : Act T W) → Decidable (Ends s a)
  | .leave _ _ granted => inferInstanceAs (Decidable (s.connection.pending.isSome = true → granted = true))
  | .enter _ _ | .execute _ _ =>
    decidable_of_iff (s.held.isEmpty = false → s.connection.pending.isSome = true) (by simp [Ends])
  | .restart => .isTrue trivial

instance {T W : Type} [DecidableEq T] :
    ∀ (s : (machine T W).State) (a : (machine T W).Act), Decidable (@Ends T W s a) :=
  fun (s : State T W) (a : Act T W) => inferInstanceAs (Decidable (Ends s a))

/-- One thread commits, another opens a block inside its block and rolls both back. -/
theorem nested_blocks_end : ∃ s : (machine ℕ String).State,
    s.finished.map (fun e => (e.nested,e.returned)) = [(false,true),(true,false),(false,false)] ∧ AllOrNothing s := by
  obtain ⟨s,hs,hp⟩ := Machine.exists_of_play (M := machine ℕ String) (R := @Ends ℕ String) (s := State.empty) rfl
    [.enter 0 true,.execute 0 (.done ["sweep"]),.leave 0 true true,.enter 1 true,.execute 1 (.done ["run"]),
      .enter 1 true,.leave 1 false true,.execute 0 (.done ["login"])]
    (fun s => s.finished.map (fun e => (e.nested,e.returned)) = [(false,true),(true,false),(false,false)]) (by decide)
  exact ⟨s,by simpa using hp,all_or_nothing_of_ends hs⟩

/-- A COMMIT fails, and the next statement of another thread is lost with what it left open. -/
theorem failed_commit_absorbs :
    ¬∀ s : (machine ℕ String).State, Machine.Reach (machine ℕ String) Machine.free s → AllOrNothing s := by
  intro h
  obtain ⟨s,hs,hp⟩ := Machine.exists_of_play (M := machine ℕ String) (R := Machine.free) (s := State.empty) rfl
    [.enter 0 true,.execute 0 (.done ["sweep"]),.leave 0 true false,.execute 1 (.done ["login"]),.restart]
    (fun s => rowsOf (.alone 2) s.connection.durable = [] ∧ rowsOf (.alone 2) s.issued = ["login"]) (by decide)
  obtain ⟨hlost,hissued⟩ := of_decide_eq_true hp
  have halone := (h s hs).alone 2
  rw [hlost,hissued] at halone
  cases halone

end Database
end LocalPlane
