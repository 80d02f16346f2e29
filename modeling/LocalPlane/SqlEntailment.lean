import LocalPlane.SqlTables

/-!
# What the constraints on a row imply

Some columns are known not to be NULL and some conditions are known to be accepted. From that a
condition can be seen never to be true, or never to be false, whatever the row.
-/

set_option linter.dupNamespace false

namespace LocalPlane
namespace Sql

open Truth (accepts)

variable {R : Type}

namespace Term

def plain : Term R → Bool
  | json _ _ => false
  | _ => true

theorem eval_plain {t : Term R} (h : t.plain = true) (read read' : String → String → Cell) (row : R → Cell) :
    t.eval read row = t.eval read' row := by
  cases t with
  | json r path => simp [plain] at h
  | column r => rfl
  | value v => rfl

end Term

namespace Condition

/-- No JSON text is read. -/
def plain : Condition R → Bool
  | isNull t => t.plain
  | is t u => t.plain && u.plain
  | eq t u => t.plain && u.plain
  | lt t u => t.plain && u.plain
  | among t _ => t.plain
  | like t _ => t.plain
  | chosen t c _ _ => t.plain && c.plain
  | not c => c.plain
  | and c d => c.plain && d.plain
  | or c d => c.plain && d.plain
  | same c d => c.plain && d.plain

theorem eval_plain {c : Condition R} (h : c.plain = true) (read read' : String → String → Cell) (row : R → Cell) :
    c.eval read row = c.eval read' row := by
  induction c with
  | isNull t | among t values | like t stem => simp only [eval,t.eval_plain h read read']
  | is t u | eq t u | lt t u =>
    simp only [plain,Bool.and_eq_true] at h
    simp only [eval,t.eval_plain h.1 read read',u.eval_plain h.2 read read']
  | not c ih => simp only [eval,ih h]
  | chosen t c yes no ih =>
    simp only [plain,Bool.and_eq_true] at h
    simp only [eval,t.eval_plain h.1 read read',ih h.2]
  | and c d ihc ihd | or c d ihc ihd | same c d ihc ihd =>
    simp only [plain,Bool.and_eq_true] at h
    simp only [eval,ihc h.1,ihd h.2]

end Condition

variable [DecidableEq R]

/-- A condition on one column alone is known by what it makes of each value of that column. -/
def Condition.onlyOn (r : R) (c : Condition R) : Bool := c.plain && c.references.all (· = r)

def Condition.atValue (c : Condition R) (v : Cell) : Truth := c.eval (fun _ _ => .null) fun _ => v

theorem Condition.eval_onlyOn {r : R} {c : Condition R} (h : c.onlyOn r = true) (read : String → String → Cell)
    (row : R → Cell) : c.eval read row = c.atValue (row r) := by
  simp only [onlyOn,Bool.and_eq_true,List.all_eq_true,decide_eq_true_eq] at h
  rw [atValue,c.eval_plain h.1 read fun _ _ => .null]
  apply c.eval_congr
  intro r' hr'
  rw [h.2 r' hr']

structure Known (R : Type) where
  facts : List (Condition R)
  notNull : List R

namespace Known

variable (k : Known R)

structure Of (read : String → String → Cell) (row : R → Cell) : Prop where
  facts : ∀ c ∈ k.facts,accepts (c.eval read row) = true
  notNull : ∀ r ∈ k.notNull,row r ≠ .null

/-- The values an accepted fact leaves a column that is not NULL. -/
def listed (r : R) : Condition R → Option (List Cell)
  | .among (.column r') values => if r' = r ∧ .null ∉ values then some values else none
  | .eq (.column r') (.value v) => if r' = r ∧ v ≠ .null then some [v] else none
  | .isNull (.column r') => if r' = r then some [] else none
  | _ => none

/-- The values a column may hold, where they are known to be few. -/
def domain (r : R) : Option (List Cell) := (k.facts.findSome? (listed r)).map fun values =>
  (if r ∈ k.notNull then values else .null :: values).filter fun v =>
    k.facts.all fun f => !f.onlyOn r || accepts (f.atValue v)

/-- Decided by the values of the only column there is. -/
def settled (b : Bool) (c : Condition R) : Bool :=
  match c.references with
  | [] => c.plain && c.atValue .null ≠ some b
  | r :: _ => c.onlyOn r && (k.domain r).any fun values => values.all fun v => c.atValue v ≠ some b

def present : Term R → Bool
  | .column r => r ∈ k.notNull
  | _ => false

def seen (b : Bool) (c : Condition R) : Bool := k.settled b c || (!b && c ∈ k.facts)

/-- The condition never evaluates to `b`. -/
def never (b : Bool) : Condition R → Bool
  | .isNull t => (b && k.present t) || k.seen b (.isNull t)
  | .not c => never (!b) c || k.seen b (.not c)
  | .and c d => (if b then never b c || never b d else never b c && never b d) || k.seen b (.and c d)
  | .or c d => (if b then never b c && never b d else never b c || never b d) || k.seen b (.or c d)
  | .same c d => (!b && ((never false c && never false d) || (never true c && never true d))) || k.seen b (.same c d)
  | c => k.seen b c

def assuming (c : Condition R) : Known R := { k with facts := c :: k.facts }

/-- The condition is accepted, in each of the two cases some fact leaves if need be. -/
def implies (c : Condition R) : Bool := k.never false c || k.facts.any fun
  | .or a b => (k.assuming a).never false c && (k.assuming b).never false c
  | _ => false

variable {k} {read : String → String → Cell} {row : R → Cell}

section Domains

theorem listed_sound {r : R} {c : Condition R} {values : List Cell} (h : listed r c = some values)
    (hc : accepts (c.eval read row) = true) : row r = .null ∨ row r ∈ values := by
  unfold listed at h
  split at h
  · split at h
    case isFalse => contradiction
    case isTrue hr =>
    obtain ⟨rfl,hnull⟩ := hr
    obtain rfl := Option.some.inj h
    simp only [Condition.eval,Term.eval,Cell.accepts_among,List.any_eq_true] at hc
    obtain ⟨v,hv,hc⟩ := hc
    rw [Cell.accepts_eq] at hc
    have hvn : v ≠ .null := by
      rintro rfl
      exact hnull hv
    simp only [hvn,decide_false,Bool.or_false,Bool.or_eq_true,decide_eq_true_eq] at hc
    rcases hc with hc | hc
    · exact .inl hc
    · exact .inr (hc ▸ hv)
  · split at h
    case isFalse => contradiction
    case isTrue hr =>
    obtain ⟨rfl,hnull⟩ := hr
    obtain rfl := Option.some.inj h
    simp only [Condition.eval,Term.eval,Cell.accepts_eq,hnull,decide_false,Bool.or_false,Bool.or_eq_true,
      decide_eq_true_eq] at hc
    exact hc.imp_right fun heq => by simp [heq]
  · split at h
    case isFalse => contradiction
    case isTrue hr =>
    subst hr
    rw [Condition.eval,Truth.accepts_some] at hc
    exact .inl (of_decide_eq_true hc)
  · contradiction

theorem domain_sound (h : k.Of read row) {r : R} {values : List Cell} (hd : k.domain r = some values) : row r ∈ values := by
  unfold domain at hd
  obtain ⟨listing,hlisting,rfl⟩ := Option.map_eq_some_iff.mp hd
  obtain ⟨fact,hfact,hlist⟩ := List.exists_of_findSome?_eq_some hlisting
  have hvalue := listed_sound hlist (h.facts fact hfact)
  rw [List.mem_filter]
  constructor
  · split
    case isTrue hr => exact hvalue.resolve_left (h.notNull r hr)
    case isFalse => simpa using hvalue
  · rw [List.all_eq_true]
    intro f hf
    by_cases hon : f.onlyOn r = true
    · rw [← f.eval_onlyOn hon read row,h.facts f hf,Bool.or_true]
    · simp [hon]

theorem settled_sound (h : k.Of read row) {b : Bool} {c : Condition R} (hs : k.settled b c = true) :
    c.eval read row ≠ some b := by
  unfold settled at hs
  split at hs
  · rename_i hrefs
    simp only [Bool.and_eq_true,decide_eq_true_eq] at hs
    have heval : c.eval read row = c.atValue .null := by
      rw [Condition.atValue,c.eval_plain hs.1 read fun _ _ => .null]
      apply c.eval_congr
      simp [hrefs]
    rw [heval]
    exact hs.2
  · rename_i r rest hrefs
    simp only [Bool.and_eq_true,Option.any_eq_true] at hs
    obtain ⟨hon,values,hd,hall⟩ := hs
    rw [List.all_eq_true] at hall
    have hv := hall (row r) (domain_sound h hd)
    rw [c.eval_onlyOn hon read row]
    simpa using hv

end Domains

theorem seen_sound (h : k.Of read row) {b : Bool} {c : Condition R} (hs : k.seen b c = true) : c.eval read row ≠ some b := by
  simp only [seen,Bool.or_eq_true,Bool.and_eq_true,Bool.not_eq_true',decide_eq_true_eq] at hs
  rcases hs with hs | ⟨rfl,hfact⟩
  · exact settled_sound h hs
  · have haccepts := h.facts c hfact
    simpa [accepts] using haccepts

theorem never_sound (h : k.Of read row) {b : Bool} {c : Condition R} (hn : k.never b c = true) :
    c.eval read row ≠ some b := by
  induction c generalizing b with
  | isNull t =>
    simp only [never,Bool.or_eq_true,Bool.and_eq_true] at hn
    rcases hn with ⟨rfl,hp⟩ | hn
    · cases t with
      | column r =>
        simp only [present,decide_eq_true_eq] at hp
        have hr := h.notNull r hp
        exact fun heq => hr (of_decide_eq_true (Option.some.inj heq))
      | value v => simp [present] at hp
      | json r path => simp [present] at hp
    · exact seen_sound h hn
  | not c ih =>
    simp only [never,Bool.or_eq_true] at hn
    rcases hn with hn | hn
    · have hc := ih hn
      intro heq
      simp only [Condition.eval,Truth.not,Option.map_eq_some_iff] at heq
      obtain ⟨a,ha,rfl⟩ := heq
      simp [ha] at hc
    · exact seen_sound h hn
  | and c d ihc ihd =>
    simp only [never,Bool.or_eq_true] at hn
    rcases hn with hn | hn
    · intro heq
      simp only [Condition.eval] at heq
      cases b with
      | true =>
        simp only [if_true,Bool.or_eq_true] at hn
        obtain ⟨hc,hd⟩ := Truth.and_eq_true.mp heq
        exact hn.elim (fun hn => ihc hn hc) fun hn => ihd hn hd
      | false =>
        simp only [Bool.false_eq_true,if_false,Bool.and_eq_true] at hn
        exact (Truth.and_eq_false.mp heq).elim (ihc hn.1) (ihd hn.2)
    · exact seen_sound h hn
  | or c d ihc ihd =>
    simp only [never,Bool.or_eq_true] at hn
    rcases hn with hn | hn
    · intro heq
      simp only [Condition.eval] at heq
      cases b with
      | true =>
        simp only [if_true,Bool.and_eq_true] at hn
        exact (Truth.or_eq_true.mp heq).elim (ihc hn.1) (ihd hn.2)
      | false =>
        simp only [Bool.false_eq_true,if_false,Bool.or_eq_true] at hn
        obtain ⟨hc,hd⟩ := Truth.or_eq_false.mp heq
        exact hn.elim (fun hn => ihc hn hc) fun hn => ihd hn hd
    · exact seen_sound h hn
  | same c d ihc ihd =>
    simp only [never,Bool.or_eq_true,Bool.and_eq_true,Bool.not_eq_true'] at hn
    rcases hn with ⟨rfl,hn⟩ | hn
    · intro heq
      simp only [Condition.eval] at heq
      obtain ⟨a,hc,hd⟩ := Truth.same_eq_false heq
      cases a with
      | true => exact hn.elim (fun hn => ihd hn.2 hd) fun hn => ihc hn.1 hc
      | false => exact hn.elim (fun hn => ihc hn.1 hc) fun hn => ihd hn.2 hd
    · exact seen_sound h hn
  | is t u | eq t u | lt t u | among t values | like t stem | chosen t c yes no => exact seen_sound h hn

omit [DecidableEq R] in
theorem of_assuming (h : k.Of read row) {c : Condition R} (hc : accepts (c.eval read row) = true) :
    (k.assuming c).Of read row where
  facts := by
    intro f hf
    rcases List.mem_cons.mp hf with rfl | hf
    · exact hc
    · exact h.facts f hf
  notNull := h.notNull

theorem accepts_of_never (h : k.Of read row) {c : Condition R} (hn : k.never false c = true) :
    accepts (c.eval read row) = true := by
  simpa [accepts] using never_sound h hn

theorem implies_sound (h : k.Of read row) {c : Condition R} (hi : k.implies c = true) :
    accepts (c.eval read row) = true := by
  simp only [implies,Bool.or_eq_true,List.any_eq_true] at hi
  rcases hi with hi | ⟨f,hf,hcases⟩
  · exact accepts_of_never h hi
  · split at hcases
    case h_2 => contradiction
    case h_1 a b =>
    rw [Bool.and_eq_true] at hcases
    have hor := h.facts _ hf
    rw [Condition.eval,Truth.accepts_or,Bool.or_eq_true] at hor
    rcases hor with ha | hb
    · exact accepts_of_never (of_assuming h ha) hcases.1
    · exact accepts_of_never (of_assuming h hb) hcases.2

end Known
end Sql
end LocalPlane
