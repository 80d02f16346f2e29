import LocalPlane.SqlEntailment
import LocalPlane.SqlMigrations
import Mathlib.Data.List.Forall2

/-!
# Migrations that cannot fail

What is known of the rows is carried along a list of statements: the conditions they meet and the
keys that keep them apart. A list of statements that can be followed in this way succeeds on every
valid store, and the store it leaves is valid.
-/

set_option linter.dupNamespace false

namespace LocalPlane
namespace Sql

open Truth (accepts)

variable {T C N : Type}

section Checks

variable [DecidableEq T] [DecidableEq C] [DecidableEq N]

abbrev Key (C : Type) := List C × Option (Condition C)

structure Standing (T C N : Type) where
  schema : Schema T C N
  facts : List (T × Condition C)
  keys : List (T × Key C)

/-- What a column of the second table is given, its default where the insert does not name it. -/
def supplyOf (d : TableDef T C) (into : List C) (select : List (Supply T C)) (c : C) : Supply T C :=
  match (into.zip select).find? (·.1 = c) with
  | some p => p.2
  | none => .value (((d.column? c).map (·.default)).getD .null)

def copies (supply : C → Supply T C) (c : C) : Bool := supply c = .column c

/-- A value that comes with the row is admitted if the column it comes from is no wider. -/
def admitted (s : Schema T C N) (old : TableDef T C) (c : ColumnDef C) : Supply T C → Bool
  | .column c' => old.columns.any fun o => o.name = c' && o.kind = c.kind && (!c.notNull || o.notNull)
  | .value v => c.admits v
  | .found t _ _ taken orElse => c.admits orElse && (s.table? t).any fun u =>
      u.columns.any fun o => o.name = taken && o.kind = c.kind

def suppliedFact (c : C) : Supply T C → Option (Condition C)
  | .value .null => some (.isNull (.column c))
  | .value v => some (.eq (.column c) (.value v))
  | _ => none

def suppliedNotNull (known : List C) : Supply T C → Bool
  | .column c => c ∈ known
  | .value v => v ≠ .null
  | .found _ _ _ _ orElse => orElse ≠ .null

namespace Standing

variable (st : Standing T C N)

def start (s : Schema T C N) (assumed : List (T × Condition C)) : Standing T C N where
  schema := s
  facts := assumed
  keys := []

def known (t : T) (d : TableDef T C) : Known C where
  facts := d.checks ++ (st.facts.filter (·.1 = t)).map (·.2)
  notNull := (d.columns.filter (·.notNull)).map (·.name)

def keysOf (t : T) : List (Key C) := st.schema.keys t ++ (st.keys.filter (·.1 = t)).map (·.2)

/-- What is known of a row once it is inserted into the second table. -/
def knownAfter (t : T) (old d : TableDef T C) (supply : C → Supply T C) : Known C where
  facts := (st.known t old).facts.filter (fun f => f.references.all (copies supply)) ++
    d.columns.filterMap fun c => suppliedFact c.name (supply c.name)
  notNull := (d.columns.filter fun c => suppliedNotNull (st.known t old).notNull (supply c.name)).map (·.name)

def carriedKey (supply : C → Supply T C) (k : Key C) : Bool :=
  k.1.all (copies supply) && k.2.all fun f => f.references.all (copies supply)

/-- Whether the rows of the first table all go into the second. -/
def rebuilds (foreignKeys : Bool) (t : T) (old d : TableDef T C) (supply : C → Supply T C) : Bool :=
  d.columns.all (fun c => admitted st.schema old c (supply c.name)) &&
  d.checks.all (st.knownAfter t old d supply).implies &&
  d.uniques.all (fun u => (st.keysOf t).any fun k => k.2 = none && k.1.all fun c => c ∈ u && copies supply c) &&
  d.references.all (fun r => supply r.column = .value .null || (copies supply r.column && r ∈ old.references)) &&
  (st.schema.withTable t d).tables.all (fun e => e.2.references.all fun r => r.table ≠ t || copies supply r.parent) &&
  (!foreignKeys || st.schema.tables.all fun e => e.1 = t || e.2.references.all fun r => r.table ≠ t)

/-- A unique index needs nothing where the rows are apart already, or where it covers none. -/
def separates (i : Index T C) : Bool :=
  (st.keysOf i.table).any (fun k => (k.2 = none || k.2 = i.filter) && k.1.all (· ∈ i.columns)) ||
    (st.schema.table? i.table).any fun d => i.filter.any fun f => (st.known i.table d).never true f

def unreferenced (t : T) : Bool := st.schema.tables.all fun e => e.2.references.all fun r => r.table ≠ t

/-- A new column that nothing speaks of yet, and whose default passes its own checks. -/
def extends_ (t : T) (d : TableDef T C) (c : ColumnDef C) (checks : List (Condition C)) : Bool :=
  c.admits c.default && checks.all (fun f => f.onlyOn c.name && accepts (f.atValue c.default)) &&
  d.columns.all (·.name ≠ c.name) && (st.known t d).facts.all (fun f => c.name ∉ f.references) &&
  (st.keysOf t).all (fun k => c.name ∉ k.1 && k.2.all fun f => c.name ∉ f.references) &&
  d.references.all (·.column ≠ c.name) &&
  st.schema.tables.all fun e => e.2.references.all fun r => r.table ≠ t || r.parent ≠ c.name

def step (foreignKeys : Bool) (statement : Statement T C N) : Option (Standing T C N) :=
  (st.schema.step statement).bind fun schema =>
    match statement with
    | .dropTrigger _ => some { st with schema }
    | .createTrigger _ _ => some { st with schema }
    | .dropIndex n =>
      some { st with
        schema
        keys := st.keys ++ (st.schema.indexes.filter fun i => i.1 = n && i.2.unique && st.schema.hasTable i.2.table).map
          fun i => (i.2.table,i.2.columns,i.2.filter) }
    | .createIndex _ i => if !i.unique || st.separates i then some { st with schema } else none
    -- no two rows of an empty table are the same even where nothing is compared
    | .createTable t _ =>
      if st.unreferenced t && st.keys.all (·.1 ≠ t) && st.facts.all (·.1 ≠ t) then
        some { st with schema, keys := st.keys ++ [(t,[],none)] }
      else none
    | .rebuild t d into select =>
      (st.schema.table? t).bind fun old =>
        if st.rebuilds foreignKeys t old d (supplyOf d into select) then
          some {
            schema
            facts := st.facts.filter (·.1 ≠ t) ++ (st.knownAfter t old d (supplyOf d into select)).facts.map fun f => (t,f)
            keys := st.keys.filter (·.1 ≠ t) ++
              ((st.keysOf t).filter (carriedKey (supplyOf d into select))).map fun k => (t,k) }
        else none
    | .addColumn t c checks =>
      (st.schema.table? t).bind fun d => if st.extends_ t d c checks then some { st with schema } else none

def steps (foreignKeys : Bool) : Standing T C N → List (Statement T C N) → Option (Standing T C N)
  | st,[] => some st
  | st,statement :: rest => (st.step foreignKeys statement).bind fun st' => steps foreignKeys st' rest

/-- Whether everything in a list is known to hold of the rows. -/
def establishes (assumed : List (T × Condition C)) : Bool := assumed.all fun e =>
  (st.schema.table? e.1).any fun d => (st.known e.1 d).implies e.2

end Standing

/-- A migration, and what is taken to hold of the rows before it. -/
structure Stage (T C N : Type) where
  assumed : List (T × Condition C)
  migration : Migration T C N

/-- Each stage can be followed, and leaves what the next one takes to hold. -/
def safe : Schema T C N → List (Stage T C N) → Bool
  | _,[] => true
  | s,stage :: rest =>
    ((Standing.start s stage.assumed).steps (!stage.migration.suspendsForeignKeys) stage.migration.statements).any fun st =>
      rest.head?.all (fun next => st.establishes next.assumed) && safe st.schema rest

end Checks

section Clashes

variable {read : String → String → Cell}

theorem clash_eq_true {columns : List C} {filter : Option (Condition C)} {row other : Row C} :
    clash read columns filter row other = true ↔ (∀ c ∈ columns,row c ≠ .null ∧ row c = other c) ∧
      ∀ f ∈ filter,f.eval read row = some true ∧ f.eval read other = some true := by
  cases filter <;> simp [clash]

/-- What fewer columns and no other filter keep apart, more columns keep apart. -/
theorem clash_mono {k : Key C} {columns : List C} {filter : Option (Condition C)} {row other : Row C}
    (hk : k.2 = none ∨ k.2 = filter) (hcolumns : ∀ c ∈ k.1,c ∈ columns)
    (h : clash read columns filter row other = true) : clash read k.1 k.2 row other = true := by
  rw [clash_eq_true] at h ⊢
  refine ⟨fun c hc => h.1 c (hcolumns c hc),?_⟩
  intro f hf
  rcases hk with hk | hk
  · simp [hk] at hf
  · exact h.2 f (hk ▸ hf)

theorem clash_never [DecidableEq C] {k : Known C} {columns : List C} {f : Condition C} {row other : Row C}
    (h : k.Of read row) (hn : k.never true f = true) : clash read columns (some f) row other = false := by
  rw [← Bool.not_eq_true,clash_eq_true]
  exact fun hclash => Known.never_sound h hn (hclash.2 f rfl).1

theorem clash_congr {k : Key C} {row other row' other' : Row C} (hcolumns : ∀ c ∈ k.1,row c = row' c ∧ other c = other' c)
    (hfilter : ∀ f ∈ k.2,∀ c ∈ f.references,row c = row' c ∧ other c = other' c) :
    clash read k.1 k.2 row other = clash read k.1 k.2 row' other' := by
  rw [Bool.eq_iff_iff,clash_eq_true,clash_eq_true]
  apply and_congr
  · apply forall₂_congr
    intro c hc
    rw [(hcolumns c hc).1,(hcolumns c hc).2]
  · apply forall₂_congr
    intro f hf
    rw [f.eval_congr fun c hc => (hfilter f hf c hc).1,f.eval_congr fun c hc => (hfilter f hf c hc).2]

end Clashes

namespace Schema

variable [DecidableEq T] {read : String → String → Cell} {s s' : Schema T C N} {content : Content T C}

omit [DecidableEq T] in
theorem eq_of_parts (htables : s.tables = s'.tables) (hindexes : s.indexes = s'.indexes)
    (htriggers : s.triggers = s'.triggers) : s = s' := by
  cases s
  cases s'
  congr

theorem clashes_eq_false {t : T} {row other : Row C} :
    s.clashes read t row other = false ↔ ∀ k ∈ s.keys t,clash read k.1 k.2 row other = false := by
  simp [clashes]

theorem mem_tables {t : T} {d : TableDef T C} (h : s.table? t = some d) : (t,d) ∈ s.tables := by
  unfold table? at h
  obtain ⟨e,he,rfl⟩ := Option.map_eq_some_iff.mp h
  have ht : e.1 = t := by simpa using List.find?_some he
  exact ht ▸ List.mem_of_find?_eq_some he

theorem table?_withTable (t : T) (d : TableDef T C) (u : T) :
    (s.withTable t d).table? u = if u = t then (s.table? t).map fun _ => d else s.table? u := by
  unfold table? withTable
  induction s.tables with
  | nil => simp
  | cons e rest ih =>
    simp only [List.map_cons,List.find?_cons]
    by_cases hu : u = t
    · subst hu
      by_cases he : e.1 = u
      · simp [he]
      · simpa [he] using ih
    · by_cases he : e.1 = t
      · have hne : t ≠ u := fun heq => hu heq.symm
        simpa [he,hu,hne] using ih
      · by_cases heu : e.1 = u
        · simp [heu,hu]
        · simpa [he,heu,hu] using ih

theorem mem_withTable {t : T} {d : TableDef T C} {e : T × TableDef T C} (h : e ∈ (s.withTable t d).tables) :
    e = (t,d) ∨ (e ∈ s.tables ∧ e.1 ≠ t) := by
  obtain ⟨before,hbefore,rfl⟩ := List.mem_map.mp h
  by_cases ht : before.1 = t
  · simp [ht]
  · simp [ht,hbefore]

omit [DecidableEq T] in
theorem anchoredAll_iff : s.anchoredAll content = true ↔ ∀ e ∈ s.tables,∀ row ∈ content e.1,∀ r ∈ e.2.references,
    row r.column = .null ∨ ∃ parent ∈ content r.table,parent r.parent = row r.column := by
  simp [anchoredAll,anchored]

theorem apart_key (h : s.Valid read content) {t : T} {d : TableDef T C} (hd : s.table? t = some d)
    {k : List C × Option (Condition C)} (hk : k ∈ s.keys t) :
    (content t).Pairwise fun row other => clash read k.1 k.2 row other = false :=
  (h.apart t d hd).imp fun hclash => clashes_eq_false.mp hclash k hk

/-- What each of many keys keeps apart, all of them keep apart. -/
theorem pairwise_all {α κ : Type} {l : List α} {keys : List κ} {p : κ → α → α → Prop} (h : ∀ k ∈ keys,l.Pairwise (p k)) :
    l.Pairwise fun a b => ∀ k ∈ keys,p k a b := by
  simp only [List.pairwise_iff_forall_sublist] at h ⊢
  intro a b hab k hk
  exact h k hk hab

theorem valid_of_tables (hpasses : ∀ e ∈ s.tables,∀ row ∈ content e.1,e.2.passes read row = true)
    (hapart : ∀ e ∈ s.tables,(content e.1).Pairwise fun row other => s.clashes read e.1 row other = false)
    (hanchored : s.anchoredAll content = true) : s.Valid read content :=
  ⟨fun t d hd => hpasses (t,d) (mem_tables hd),fun t d hd => hapart (t,d) (mem_tables hd),hanchored⟩

theorem valid_of_keys (ht : s'.tables = s.tables) (h : s.Valid read content)
    (hk : ∀ t d,s.table? t = some d → ∀ k ∈ s'.keys t,
      (content t).Pairwise fun row other => clash read k.1 k.2 row other = false) : s'.Valid read content := by
  have htable (t : T) : s'.table? t = s.table? t := by simp only [table?,ht]
  refine ⟨?_,?_,?_⟩
  · intro t d hd
    rw [htable] at hd
    exact h.passes t d hd
  · intro t d hd
    rw [htable] at hd
    simp only [clashes_eq_false]
    exact pairwise_all (hk t d hd)
  · have hanchored := h.anchored
    rw [anchoredAll_iff] at hanchored ⊢
    rwa [ht]

/-- One table gets another definition and its rows are changed one by one. -/
theorem valid_replaced {t : T} {old d : TableDef T C} {g : Row C → Row C} (hs : s.table? t = some old)
    (ht : s'.tables = (s.withTable t d).tables) (hkeys : ∀ u,u ≠ t → ∀ k ∈ s'.keys u,k ∈ s.keys u)
    (h : s.Valid read content) (hpasses : ∀ row ∈ content t,d.passes read (g row) = true)
    (hapart : ∀ k ∈ s'.keys t,((content t).map g).Pairwise fun row other => clash read k.1 k.2 row other = false)
    (hcolumns : ∀ r ∈ d.references,∀ row ∈ content t,g row r.column = .null ∨
      (r ∈ old.references ∧ g row r.column = row r.column))
    (hparents : ∀ e ∈ s'.tables,∀ r ∈ e.2.references,r.table = t → ∀ row ∈ content t,g row r.parent = row r.parent) :
    s'.Valid read (Function.update content t ((content t).map g)) := by
  have htable (u : T) : s'.table? u = if u = t then some d else s.table? u := by
    have heq : s'.table? u = (s.withTable t d).table? u := by simp only [table?,ht]
    rw [heq,table?_withTable,hs]
    rfl
  refine ⟨?_,?_,?_⟩
  · intro u e hu row hrow
    rw [htable] at hu
    by_cases hut : u = t
    · subst hut
      rw [if_pos rfl,Option.some.injEq] at hu
      rw [Function.update_self] at hrow
      obtain ⟨before,hbefore,rfl⟩ := List.mem_map.mp hrow
      exact hu ▸ hpasses before hbefore
    · rw [if_neg hut] at hu
      rw [Function.update_of_ne hut] at hrow
      exact h.passes u e hu row hrow
  · intro u e hu
    rw [htable] at hu
    simp only [clashes_eq_false]
    apply pairwise_all
    intro k hk
    by_cases hut : u = t
    · subst hut
      rw [Function.update_self]
      exact hapart k hk
    · rw [if_neg hut] at hu
      rw [Function.update_of_ne hut]
      exact apart_key h hu (hkeys u hut k hk)
  · have hanchored := anchoredAll_iff.mp h.anchored
    rw [anchoredAll_iff]
    intro e he row hrow r hr
    -- a parent found before is found again under the same key
    have hkept (v : Cell) (hv : ∃ parent ∈ content r.table,parent r.parent = v) :
        ∃ parent ∈ Function.update content t ((content t).map g) r.table,parent r.parent = v := by
      obtain ⟨parent,hparent,rfl⟩ := hv
      by_cases hrt : r.table = t
      · rw [hrt] at hparent ⊢
        rw [Function.update_self]
        exact ⟨g parent,List.mem_map_of_mem hparent,hparents e he r hr hrt parent hparent⟩
      · rw [Function.update_of_ne hrt]
        exact ⟨parent,hparent,rfl⟩
    rw [ht] at he
    rcases mem_withTable he with rfl | ⟨he,het⟩
    · simp only [Function.update_self] at hrow
      obtain ⟨before,hbefore,rfl⟩ := List.mem_map.mp hrow
      rcases hcolumns r hr before hbefore with hnull | ⟨hold,hsame⟩
      · exact .inl hnull
      · rw [hsame]
        exact (hanchored (t,old) (mem_tables hs) before hbefore r hold).imp_right (hkept _)
    · rw [Function.update_of_ne het] at hrow
      exact (hanchored e he row hrow r hr).imp_right (hkept _)

end Schema

namespace Standing

section Knowledge

variable [DecidableEq T] {read : String → String → Cell} {st : Standing T C N} {content : Content T C}

variable (read) in
/-- The store is valid, and what is known of its rows is so. -/
structure Holds (st : Standing T C N) (content : Content T C) : Prop where
  valid : st.schema.Valid read content
  facts : ∀ e ∈ st.facts,∀ row ∈ content e.1,accepts (e.2.eval read row) = true
  keys : ∀ e ∈ st.keys,(content e.1).Pairwise fun row other => clash read e.2.1 e.2.2 row other = false

theorem known_of (h : st.Holds read content) {t : T} {d : TableDef T C} (hd : st.schema.table? t = some d) {row : Row C}
    (hrow : row ∈ content t) : (st.known t d).Of read row where
  facts := by
    intro c hc
    rcases List.mem_append.mp hc with hc | hc
    · exact TableDef.accepts_check read (h.valid.passes t d hd row hrow) hc
    · obtain ⟨e,he,rfl⟩ := List.mem_map.mp hc
      obtain ⟨he,ht⟩ := List.mem_filter.mp he
      exact h.facts e he row (of_decide_eq_true ht ▸ hrow)
  notNull := by
    intro c hc
    obtain ⟨column,hcolumn,rfl⟩ := List.mem_map.mp hc
    obtain ⟨hcolumn,hnotNull⟩ := List.mem_filter.mp hcolumn
    exact ColumnDef.admits_null (TableDef.typed_column read (h.valid.passes t d hd row hrow) hcolumn) hnotNull

theorem apart_of (h : st.Holds read content) {t : T} {d : TableDef T C} (hd : st.schema.table? t = some d) {k : Key C}
    (hk : k ∈ st.keysOf t) : (content t).Pairwise fun row other => clash read k.1 k.2 row other = false := by
  rcases List.mem_append.mp hk with hk | hk
  · exact Schema.apart_key h.valid hd hk
  · obtain ⟨e,he,rfl⟩ := List.mem_map.mp hk
    obtain ⟨he,ht⟩ := List.mem_filter.mp he
    have hapart := h.keys e he
    rwa [of_decide_eq_true ht] at hapart

end Knowledge

section Rebuilding

variable [DecidableEq T] [DecidableEq C] {read : String → String → Cell} {st : Standing T C N} {content : Content T C}

omit [DecidableEq T] in
theorem restated_eq (content : Content T C) (d : TableDef T C) (into : List C) (select : List (Supply T C)) (row : Row C) (c : C) :
    Database.restated content d into select row c = (supplyOf d into select c).eval content row := by
  simp only [Database.restated,TableDef.build,supplyOf,List.find?_map,Function.comp_def]
  cases (into.zip select).find? (·.1 = c) <;> rfl

omit [DecidableEq T] [DecidableEq C] in
theorem admits_mono {o c : ColumnDef C} (hkind : o.kind = c.kind) (hnull : c.notNull = true → o.notNull = true)
    {cell : Cell} (h : o.admits cell = true) : c.admits cell = true := by
  cases cell with
  | null =>
    simp only [ColumnDef.admits,Bool.not_eq_true'] at h ⊢
    by_contra hc
    simp [hnull (by simpa using hc)] at h
  | integer n => simpa [ColumnDef.admits,hkind] using h
  | text s => simpa [ColumnDef.admits,hkind] using h

omit [DecidableEq T] [DecidableEq C] in
theorem found_eval (content : Content T C) (t : T) (key from_ taken : C) (orElse : Cell) (row : Row C) :
    (Supply.found t key from_ taken orElse).eval content row = orElse ∨ ∃ other ∈ content t,
      other taken ≠ .null ∧ (Supply.found t key from_ taken orElse).eval content row = other taken := by
  simp only [Supply.eval]
  cases hfind : (content t).find? fun other => (other key).eq (row from_) = some true with
  | none => exact .inl rfl
  | some other =>
    by_cases hnull : other taken = .null
    · simp [hnull]
    · exact .inr ⟨other,List.mem_of_find?_eq_some hfind,hnull,by simp [hnull]⟩

theorem admitted_admits {s : Schema T C N} (hv : s.Valid read content) {t : T} {old : TableDef T C}
    (hs : s.table? t = some old) {row : Row C} (hrow : row ∈ content t) {c : ColumnDef C} {supply : Supply T C}
    (h : admitted s old c supply = true) : c.admits (supply.eval content row) = true := by
  cases supply with
  | column c' =>
    simp only [admitted,List.any_eq_true,Bool.and_eq_true,decide_eq_true_eq,Bool.or_eq_true,Bool.not_eq_true'] at h
    obtain ⟨o,ho,⟨rfl,hkind⟩,hnull⟩ := h
    refine admits_mono hkind ?_ (TableDef.typed_column read (hv.passes t old hs row hrow) ho)
    intro hc
    simpa [hc] using hnull
  | value v => exact h
  | found u key from_ taken orElse =>
    simp only [admitted,Bool.and_eq_true,Option.any_eq_true,List.any_eq_true,decide_eq_true_eq] at h
    obtain ⟨horElse,e,he,o,ho,rfl,hkind⟩ := h
    rcases found_eval content u key from_ o.name orElse row with heq | ⟨other,hother,hnull,heq⟩
    · rwa [heq]
    · rw [heq]
      have hadmits := TableDef.typed_column read (hv.passes u e he other hother) ho
      cases hcell : other o.name with
      | null => exact absurd hcell hnull
      | integer n => simpa [ColumnDef.admits,hcell,hkind] using hadmits
      | text text => simpa [ColumnDef.admits,hcell,hkind] using hadmits

variable {t : T} {old d : TableDef T C} {supply : C → Supply T C} {g : Row C → Row C}

theorem copied (hg : ∀ row c,g row c = (supply c).eval content row) {c : C} (hc : copies supply c = true) (row : Row C) :
    g row c = row c := by
  rw [hg,of_decide_eq_true hc]
  rfl

omit [DecidableEq T] [DecidableEq C] in
theorem suppliedFact_accepts {c : C} {cell : Supply T C} {f : Condition C} (h : suppliedFact c cell = some f) {row : Row C}
    {after : Row C} (ha : after c = cell.eval content row) : accepts (f.eval read after) = true := by
  unfold suppliedFact at h
  split at h
  · obtain rfl := Option.some.inj h
    simp [Condition.eval,Term.eval,ha,Supply.eval]
  · obtain rfl := Option.some.inj h
    simp [Condition.eval,Term.eval,ha,Supply.eval]
  · contradiction

omit [DecidableEq T] in
theorem suppliedNotNull_ne {known : List C} {cell : Supply T C} {row : Row C} (hknown : ∀ c ∈ known,row c ≠ .null)
    (h : suppliedNotNull known cell = true) : cell.eval content row ≠ .null := by
  cases cell with
  | column c => exact hknown c (of_decide_eq_true h)
  | value v =>
    have hv : v ≠ .null := by simpa [suppliedNotNull] using h
    exact hv
  | found u key from_ taken orElse =>
    have horElse : orElse ≠ .null := by simpa [suppliedNotNull] using h
    rcases found_eval content u key from_ taken orElse row with heq | ⟨other,_,hnull,heq⟩
    · rwa [heq]
    · rwa [heq]

theorem knownAfter_of (h : st.Holds read content) (hs : st.schema.table? t = some old)
    (hg : ∀ row c,g row c = (supply c).eval content row) {row : Row C} (hrow : row ∈ content t) :
    (st.knownAfter t old d supply).Of read (g row) where
  facts := by
    intro f hf
    rcases List.mem_append.mp hf with hf | hf
    · obtain ⟨hf,hcopies⟩ := List.mem_filter.mp hf
      rw [List.all_eq_true] at hcopies
      rw [f.eval_congr fun c hc => copied hg (hcopies c hc) row]
      exact (known_of h hs hrow).facts f hf
    · obtain ⟨c,_,hc⟩ := List.mem_filterMap.mp hf
      exact suppliedFact_accepts hc (hg row c.name)
  notNull := by
    intro c hc
    obtain ⟨column,hcolumn,rfl⟩ := List.mem_map.mp hc
    rw [hg]
    exact suppliedNotNull_ne (known_of h hs hrow).notNull (List.mem_filter.mp hcolumn).2

variable (st t old d supply) in
/-- What a rebuild is checked for. -/
structure Rebuilds (foreignKeys : Bool) : Prop where
  admitted : ∀ c ∈ d.columns,admitted st.schema old c (supply c.name) = true
  checks : ∀ c ∈ d.checks,(st.knownAfter t old d supply).implies c = true
  uniques : ∀ u ∈ d.uniques,∃ k ∈ st.keysOf t,k.2 = none ∧ ∀ c ∈ k.1,c ∈ u ∧ copies supply c = true
  references : ∀ r ∈ d.references,supply r.column = .value .null ∨ (copies supply r.column = true ∧ r ∈ old.references)
  parents : ∀ e ∈ (st.schema.withTable t d).tables,∀ r ∈ e.2.references,r.table = t → copies supply r.parent = true
  children : foreignKeys = true → ∀ e ∈ st.schema.tables,e.1 ≠ t → ∀ r ∈ e.2.references,r.table ≠ t

theorem rebuilds_sound {foreignKeys : Bool} (h : st.rebuilds foreignKeys t old d supply = true) :
    Rebuilds st t old d supply foreignKeys := by
  simp only [rebuilds,Bool.and_eq_true,List.all_eq_true,List.any_eq_true,decide_eq_true_eq,Bool.or_eq_true,
    Bool.not_eq_true'] at h
  obtain ⟨⟨⟨⟨⟨hadmitted,hchecks⟩,huniques⟩,hreferences⟩,hparents⟩,hchildren⟩ := h
  refine ⟨hadmitted,hchecks,huniques,hreferences,?_,?_⟩
  · intro e he r hr ht
    exact (hparents e he r hr).resolve_left (not_not.mpr ht)
  · intro hforeign e he ht r hr
    exact (hchildren.resolve_left (by simp [hforeign]) e he).resolve_left ht r hr

section Rows

variable {foreignKeys : Bool} (hr : Rebuilds st t old d supply foreignKeys) (h : st.Holds read content)
  (hs : st.schema.table? t = some old) (hg : ∀ row c,g row c = (supply c).eval content row)
include hr h hs hg

theorem rebuild_passes {row : Row C} (hrow : row ∈ content t) : d.passes read (g row) = true := by
  simp only [TableDef.passes,TableDef.typed,TableDef.checked,Bool.and_eq_true,List.all_eq_true]
  constructor
  · intro c hc
    rw [hg]
    exact admitted_admits h.valid hs hrow (hr.admitted c hc)
  · intro c hc
    exact Known.implies_sound (knownAfter_of h hs hg hrow) (hr.checks c hc)

theorem rebuild_uniques {u : List C} (hu : u ∈ d.uniques) :
    ((content t).map g).Pairwise fun row other => clash read u none row other = false := by
  obtain ⟨k,hk,hfilter,hcolumns⟩ := hr.uniques u hu
  rw [List.pairwise_map]
  refine (apart_of h hs hk).imp ?_
  intro row other hapart
  rw [← Bool.not_eq_true] at hapart ⊢
  refine mt ?_ hapart
  intro hclash
  have hmono := clash_mono (k := k) (.inl hfilter) (fun c hc => (hcolumns c hc).1) hclash
  rwa [clash_congr (fun c hc => ⟨copied hg (hcolumns c hc).2 row,copied hg (hcolumns c hc).2 other⟩)
    (by simp [hfilter])] at hmono

end Rows

theorem rebuild_anchored {foreignKeys : Bool} (hr : Rebuilds st t old d supply foreignKeys)
    (hg : ∀ row c,g row c = (supply c).eval content row) (row : Row C) {r : Reference T C} (hmem : r ∈ d.references) :
    g row r.column = .null ∨ (r ∈ old.references ∧ g row r.column = row r.column) := by
  rcases hr.references r hmem with hnull | ⟨hcopies,hold⟩
  · exact .inl (by rw [hg,hnull]; rfl)
  · exact .inr ⟨hold,copied hg hcopies row⟩

theorem carried_apart (h : st.Holds read content) (hs : st.schema.table? t = some old)
    (hg : ∀ row c,g row c = (supply c).eval content row) {k : Key C} (hk : k ∈ st.keysOf t)
    (hc : carriedKey supply k = true) :
    ((content t).map g).Pairwise fun row other => clash read k.1 k.2 row other = false := by
  simp only [carriedKey,Bool.and_eq_true,List.all_eq_true,Option.all_eq_true] at hc
  rw [List.pairwise_map]
  refine (apart_of h hs hk).imp ?_
  intro row other hapart
  rw [clash_congr (fun c hmem => ⟨copied hg (hc.1 c hmem) row,copied hg (hc.1 c hmem) other⟩)]
  · exact hapart
  · intro f hf c hmem
    exact ⟨copied hg (hc.2 f hf c hmem) row,copied hg (hc.2 f hf c hmem) other⟩

end Rebuilding

section Extending

variable [DecidableEq T] [DecidableEq C] {read : String → String → Cell} {st : Standing T C N} {content : Content T C}
  {t : T} {d : TableDef T C} {c : ColumnDef C} {checks : List (Condition C)}

variable (st t d c checks) in
/-- What a new column is checked for. -/
structure Extends : Prop where
  admits : c.admits c.default = true
  checks : ∀ f ∈ checks,f.onlyOn c.name = true ∧ accepts (f.atValue c.default) = true
  columns : ∀ column ∈ d.columns,column.name ≠ c.name
  facts : ∀ f ∈ (st.known t d).facts,c.name ∉ f.references
  keys : ∀ k ∈ st.keysOf t,c.name ∉ k.1 ∧ ∀ f ∈ k.2,c.name ∉ f.references
  references : ∀ r ∈ d.references,r.column ≠ c.name
  parents : ∀ e ∈ st.schema.tables,∀ r ∈ e.2.references,r.table = t → r.parent ≠ c.name

theorem extends_sound (h : st.extends_ t d c checks = true) : Extends st t d c checks := by
  simp only [extends_,Bool.and_eq_true,List.all_eq_true,decide_eq_true_eq,Bool.or_eq_true,Option.all_eq_true] at h
  obtain ⟨⟨⟨⟨⟨⟨hadmits,hchecks⟩,hcolumns⟩,hfacts⟩,hkeys⟩,hreferences⟩,hparents⟩ := h
  refine ⟨hadmits,hchecks,hcolumns,hfacts,hkeys,hreferences,?_⟩
  intro e he r hr ht
  exact (hparents e he r hr).resolve_left (not_not.mpr ht)

/-- A row with the new column at its default. -/
def extended (c : ColumnDef C) (row : Row C) : Row C := Function.update row c.name c.default

omit [DecidableEq T] in
theorem extended_of_ne {column : C} (h : column ≠ c.name) (row : Row C) : extended c row column = row column :=
  Function.update_of_ne h _ _

omit [DecidableEq T] in
theorem extended_eval {f : Condition C} (h : c.name ∉ f.references) (row : Row C) :
    f.eval read (extended c row) = f.eval read row :=
  f.eval_congr fun _ hr => extended_of_ne (fun heq => h (heq ▸ hr)) row

omit [DecidableEq T] in
theorem extended_check (read : String → String → Cell) {f : Condition C} (h : f.onlyOn c.name = true) (row : Row C) :
    f.eval read (extended c row) = f.atValue c.default := by
  rw [f.eval_onlyOn h,extended,Function.update_self]

def extendedTable (d : TableDef T C) (c : ColumnDef C) (checks : List (Condition C)) : TableDef T C :=
  { d with columns := d.columns ++ [c], checks := d.checks ++ checks }

theorem extended_passes (hx : Extends st t d c checks) (h : st.Holds read content) (hs : st.schema.table? t = some d)
    {row : Row C} (hrow : row ∈ content t) : (extendedTable d c checks).passes read (extended c row) = true := by
  have hpasses := h.valid.passes t d hs row hrow
  simp only [TableDef.passes,TableDef.typed,TableDef.checked,extendedTable,Bool.and_eq_true,List.all_eq_true,
    List.mem_append,List.mem_singleton]
  constructor
  · rintro column (hcolumn | rfl)
    · rw [extended_of_ne (hx.columns column hcolumn)]
      exact TableDef.typed_column read hpasses hcolumn
    · rw [extended,Function.update_self]
      exact hx.admits
  · rintro f (hf | hf)
    · rw [extended_eval (hx.facts f (List.mem_append_left _ hf))]
      exact TableDef.accepts_check read hpasses hf
    · rw [extended_check read (hx.checks f hf).1]
      exact (hx.checks f hf).2

theorem extended_apart (hx : Extends st t d c checks) (h : st.Holds read content) (hs : st.schema.table? t = some d)
    {k : Key C} (hk : k ∈ st.keysOf t) :
    ((content t).map (extended c)).Pairwise fun row other => clash read k.1 k.2 row other = false := by
  have hfresh := hx.keys k hk
  rw [List.pairwise_map]
  refine (apart_of h hs hk).imp ?_
  intro row other hapart
  have hcolumns : ∀ column ∈ k.1,extended c row column = row column ∧ extended c other column = other column := by
    intro column hcolumn
    have hne : column ≠ c.name := fun heq => hfresh.1 (heq ▸ hcolumn)
    exact ⟨extended_of_ne hne row,extended_of_ne hne other⟩
  have hfilter : ∀ f ∈ k.2,∀ column ∈ f.references,
      extended c row column = row column ∧ extended c other column = other column := by
    intro f hf column hcolumn
    have hne : column ≠ c.name := fun heq => hfresh.2 f hf (heq ▸ hcolumn)
    exact ⟨extended_of_ne hne row,extended_of_ne hne other⟩
  rw [clash_congr hcolumns hfilter]
  exact hapart

end Extending

end Standing
end Sql
end LocalPlane
