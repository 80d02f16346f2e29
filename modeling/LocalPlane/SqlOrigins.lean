import LocalPlane.SqlUpgrades

/-!
# Where a migrated row comes from

Every column of a table is followed through a list of migrations to the rows there were at first:
it still holds what one of their columns held, or a value a migration gave it. No row is lost and
none is made twice, so that rows before and after stand in the same places.
-/

set_option linter.dupNamespace false

namespace LocalPlane
namespace Sql

variable {T C N : Type} [DecidableEq T] [DecidableEq C]

/-- What each column of a table holds, in terms of the rows there were at first. -/
abbrev Origins (T C : Type) := List (T × List (C × Supply T C))

def originOf (columns : List (C × Supply T C)) (c : C) : Option (Supply T C) := (columns.find? (·.1 = c)).map (·.2)

namespace Origins

variable (o : Origins T C)

def of? (t : T) : Option (List (C × Supply T C)) := (o.find? (·.1 = t)).map (·.2)

def unchanged (t : T) (c : C) : Bool := (o.of? t).any fun columns => originOf columns c = some (.column c)

/-- A value that is looked up is the same as long as the rows it is looked up in are. -/
def compose (columns : List (C × Supply T C)) : Supply T C → Option (Supply T C)
  | .column c => originOf columns c
  | .value v => some (.value v)
  | .found t k f c orElse =>
    if o.unchanged t k && o.unchanged t c then
      match originOf columns f with
      | some (.column f') => some (.found t k f' c orElse)
      | _ => none
    else none

def restate (t : T) (g : List (C × Supply T C) → List (C × Supply T C)) : Origins T C :=
  o.map fun e => if e.1 = t then (t,g e.2) else e

def step : Statement T C N → Origins T C
  | .createTable t _ => o.filter (·.1 ≠ t)
  | .rebuild t d into select => o.restate t fun columns =>
      d.columns.filterMap fun c => (o.compose columns (supplyOf d into select c.name)).map fun s => (c.name,s)
  | .addColumn t c _ => o.restate t fun columns => columns.filter (·.1 ≠ c.name) ++ [(c.name,.value c.default)]
  | _ => o

def migrate (m : Migration T C N) : Origins T C := m.statements.foldl (fun o statement => o.step statement) o

omit [DecidableEq T] [DecidableEq C] in
/-- At first every column holds what it holds. -/
def start (s : Schema T C N) : Origins T C := s.tables.map fun e => (e.1,e.2.columns.map fun c => (c.name,.column c.name))

end Origins

section Tracing

variable {read : String → String → Cell} {content before : Content T C} {o : Origins T C}

/-- A row, and what became of it. -/
def Became (content : Content T C) (columns : List (C × Supply T C)) (row after : Row C) : Prop :=
  ∀ p ∈ columns,after p.1 = p.2.eval content row

/-- The rows of each table stand where they stood, and hold what their origins say. -/
def Traced (content : Content T C) (o : Origins T C) (after : Content T C) : Prop :=
  ∀ e ∈ o,List.Forall₂ (Became content e.2) (content e.1) (after e.1)

omit [DecidableEq T] in
theorem became_origin {columns : List (C × Supply T C)} {row after : Row C} (h : Became content columns row after) {c : C}
    {s : Supply T C} (hs : originOf columns c = some s) : after c = s.eval content row := by
  obtain ⟨p,hp,rfl⟩ := Option.map_eq_some_iff.mp hs
  have hc : p.1 = c := by simpa using List.find?_some hp
  rw [← hc]
  exact h p (List.mem_of_find?_eq_some hp)

theorem traced_unchanged (h : Traced content o before) {t : T} {k c : C} (hk : o.unchanged t k = true)
    (hc : o.unchanged t c = true) :
    List.Forall₂ (fun row after : Row C => after k = row k ∧ after c = row c) (content t) (before t) := by
  simp only [Origins.unchanged,Option.any_eq_true,decide_eq_true_eq] at hk hc
  obtain ⟨columns,hcolumns,hk⟩ := hk
  obtain ⟨_,hsame,hc⟩ := hc
  obtain rfl := Option.some.inj (hcolumns.symm.trans hsame)
  obtain ⟨e,he,rfl⟩ := Option.map_eq_some_iff.mp hcolumns
  have ht : e.1 = t := by simpa using List.find?_some he
  rw [← ht]
  refine (h e (List.mem_of_find?_eq_some he)).imp ?_
  intro row after hbecame
  exact ⟨became_origin hbecame hk,became_origin hbecame hc⟩

omit [DecidableEq T] [DecidableEq C] in
/-- The first row with a key is found in the same place. -/
theorem found_congr {rows afters : List (Row C)} {k c : C}
    (h : List.Forall₂ (fun row after : Row C => after k = row k ∧ after c = row c) rows afters) (v orElse : Cell) :
    (match afters.find? fun other => (other k).eq v = some true with
      | some other => if other c = Cell.null then orElse else other c
      | none => orElse) =
    match rows.find? fun other => (other k).eq v = some true with
      | some other => if other c = Cell.null then orElse else other c
      | none => orElse := by
  induction h with
  | nil => rfl
  | @cons row after rows afters hsame _ ih =>
    obtain ⟨hk,hc⟩ := hsame
    simp only [List.find?_cons,hk]
    cases decide ((row k).eq v = some true) with
    | true => simp only [hc]
    | false => exact ih

theorem compose_eval (h : Traced content o before) {columns : List (C × Supply T C)} {row after : Row C}
    (hb : Became content columns row after) {s s' : Supply T C} (hs : o.compose columns s = some s') :
    s.eval before after = s'.eval content row := by
  cases s with
  | column c => exact became_origin hb hs
  | value v =>
    obtain rfl := Option.some.inj hs
    rfl
  | found t k f c orElse =>
    simp only [Origins.compose,Option.ite_none_right_eq_some,Bool.and_eq_true] at hs
    obtain ⟨⟨hk,hc⟩,hs⟩ := hs
    split at hs
    · rename_i f' hf
      obtain rfl := Option.some.inj hs
      have hfrom : after f = row f' := became_origin hb hf
      simp only [Supply.eval,hfrom]
      exact found_congr (traced_unchanged h hk hc) (row f') orElse
    · contradiction

omit [DecidableEq C] in
theorem traced_restate (h : Traced content o before) {t : T} {g : List (C × Supply T C) → List (C × Supply T C)}
    {f : Row C → Row C}
    (hg : ∀ columns row after,Became content columns row after → Became content (g columns) row (f after)) :
    Traced content (o.restate t g) (Function.update before t ((before t).map f)) := by
  intro e he
  obtain ⟨e,hmem,rfl⟩ := List.mem_map.mp he
  have hrows := h e hmem
  by_cases ht : e.1 = t
  · simp only [ht,if_true,Function.update_self] at hrows ⊢
    rw [List.forall₂_map_right_iff]
    exact hrows.imp fun row after hbecame => hg e.2 row after hbecame
  · simp only [ht,if_false,Function.update_of_ne (ne_of_eq_of_ne rfl ht)]
    exact hrows

theorem step_traced [DecidableEq N] {db : Database T C N} {foreignKeys : Bool} {statement : Statement T C N}
    (h : Traced content o db.content) {after : Content T C} (hs : db.stepRows read foreignKeys statement = some after) :
    Traced content (o.step statement) after := by
  cases statement with
  | dropTrigger n | dropIndex n | createTrigger n g => exact Option.some.inj hs ▸ h
  | createIndex n i =>
    simp only [Database.stepRows,Option.ite_none_right_eq_some,Option.some.injEq] at hs
    exact hs.2 ▸ h
  | createTable t d =>
    obtain rfl := Option.some.inj hs
    intro e he
    obtain ⟨he,ht⟩ := List.mem_filter.mp he
    rw [Function.update_of_ne (of_decide_eq_true ht)]
    exact h e he
  | rebuild t d into select =>
    simp only [Database.stepRows,Option.ite_none_right_eq_some,Option.some.injEq] at hs
    obtain ⟨_,rfl⟩ := hs
    rw [Origins.step]
    apply traced_restate h
    intro columns row after hb p hp
    obtain ⟨c,_,hc⟩ := List.mem_filterMap.mp hp
    obtain ⟨s,hs,rfl⟩ := Option.map_eq_some_iff.mp hc
    rw [Standing.restated_eq]
    exact compose_eval h hb hs
  | addColumn t c checks =>
    simp only [Database.stepRows,Option.ite_none_right_eq_some,Option.some.injEq] at hs
    obtain ⟨_,rfl⟩ := hs
    rw [Origins.step]
    apply traced_restate h
    intro columns row after hb p hp
    rcases List.mem_append.mp hp with hp | hp
    · obtain ⟨hp,hne⟩ := List.mem_filter.mp hp
      rw [Function.update_of_ne (of_decide_eq_true hne)]
      exact hb p hp
    · obtain rfl := List.mem_singleton.mp hp
      exact Function.update_self _ _ _

theorem steps_traced [DecidableEq N] {foreignKeys : Bool} {statements : List (Statement T C N)} {db after : Database T C N}
    (h : Traced content o db.content) (hs : Database.steps read foreignKeys db statements = some after) :
    Traced content (statements.foldl (fun o statement => o.step statement) o) after.content := by
  induction statements generalizing o db with
  | nil => exact Option.some.inj hs ▸ h
  | cons statement rest ih =>
    obtain ⟨next,hnext,hs⟩ := Option.bind_eq_some_iff.mp hs
    obtain ⟨schema,_,hnext⟩ := Option.bind_eq_some_iff.mp hnext
    obtain ⟨rows,hrows,rfl⟩ := Option.map_eq_some_iff.mp hnext
    exact ih (step_traced h hrows) hs

theorem upgrade_traced [DecidableEq N] {ms : List (Migration T C N)} {db after : Database T C N}
    (h : Traced content o db.content) (hs : Database.upgrade read db ms = some after) :
    Traced content (ms.foldl Origins.migrate o) after.content := by
  induction ms generalizing o db with
  | nil => exact Option.some.inj hs ▸ h
  | cons m rest ih =>
    obtain ⟨next,hnext,hs⟩ := Option.bind_eq_some_iff.mp hs
    obtain ⟨last,hlast,hnext⟩ := Option.bind_eq_some_iff.mp hnext
    simp only [Option.ite_none_left_eq_some,Option.some.injEq] at hnext
    obtain ⟨_,rfl⟩ := hnext
    exact ih (steps_traced h hlast) hs

omit [DecidableEq T] [DecidableEq C] in
theorem start_traced (s : Schema T C N) (content : Content T C) : Traced content (Origins.start s) content := by
  intro e he
  obtain ⟨e,_,rfl⟩ := List.mem_map.mp he
  refine List.forall₂_same.mpr ?_
  intro row _ p hp
  obtain ⟨c,_,rfl⟩ := List.mem_map.mp hp
  rfl

end Tracing

/-- Whether the rows of a table keep the columns of one definition and get the others as stated. -/
def Origins.keeps (o : Origins T C) (t : T) (d : TableDef T C) (restated : List (C × Supply T C)) : Bool :=
  (o.of? t).any fun columns => d.columns.all (fun c => originOf columns c.name = some (.column c.name)) &&
    restated.all fun p => originOf columns p.1 = some p.2

theorem keeps_sound {content after : Content T C} {o : Origins T C} (h : Traced content o after) {t : T} {d : TableDef T C}
    {restated : List (C × Supply T C)} (hk : o.keeps t d restated = true) :
    List.Forall₂ (fun row row' : Row C => (∀ c ∈ d.columns,row' c.name = row c.name) ∧ Became content restated row row')
      (content t) (after t) := by
  simp only [Origins.keeps,Option.any_eq_true,Bool.and_eq_true,List.all_eq_true,decide_eq_true_eq] at hk
  obtain ⟨columns,hcolumns,hkept,hrestated⟩ := hk
  obtain ⟨e,he,rfl⟩ := Option.map_eq_some_iff.mp hcolumns
  have ht : e.1 = t := by simpa using List.find?_some he
  rw [← ht]
  refine (h e (List.mem_of_find?_eq_some he)).imp ?_
  intro row row' hbecame
  constructor
  · intro c hc
    exact became_origin hbecame (hkept c hc)
  · intro p hp
    exact became_origin hbecame (hrestated p hp)

end Sql
end LocalPlane
