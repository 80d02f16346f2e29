import LocalPlane.SqlUpgrades

/-!
# A followed statement succeeds

One lemma for each statement that can be followed: the store accepts it, and what is known of the
rows afterwards is so. Whole migrations and lists of them come by induction.
-/

set_option linter.dupNamespace false

namespace LocalPlane
namespace Sql
open Truth (accepts)

namespace Standing

variable {T C N : Type} [DecidableEq T] [DecidableEq C] [DecidableEq N] {read : String → String → Cell}
  {st st' : Standing T C N} {content : Content T C} {schema : Schema T C N}

omit [DecidableEq C] [DecidableEq N] in
/-- Other indexes and triggers leave a store valid where its rows are apart under every key. -/
theorem holds_of_keys (h : st.Holds read content) (ht : schema.tables = st.schema.tables)
    (hk : ∀ t d,st.schema.table? t = some d → ∀ k ∈ schema.keys t,
      (content t).Pairwise fun row other => clash read k.1 k.2 row other = false) :
    ({ st with schema } : Standing T C N).Holds read content :=
  ⟨Schema.valid_of_keys ht h.valid hk,h.facts,h.keys⟩

theorem dropTrigger_holds (h : st.Holds read content) {n : N} (hs : st.schema.step (.dropTrigger n) = some schema) :
    ({ st with schema } : Standing T C N).Holds read content := by
  simp only [Schema.step,Option.ite_none_right_eq_some,Option.some.injEq] at hs
  obtain ⟨_,rfl⟩ := hs
  exact holds_of_keys h rfl fun _ _ hd _ hk => Schema.apart_key h.valid hd hk

theorem createTrigger_holds (h : st.Holds read content) {n : N} {g : Trigger T C}
    (hs : st.schema.step (.createTrigger n g) = some schema) : ({ st with schema } : Standing T C N).Holds read content := by
  simp only [Schema.step,Option.ite_none_right_eq_some,Option.some.injEq] at hs
  obtain ⟨_,rfl⟩ := hs
  exact holds_of_keys h rfl fun _ _ hd _ hk => Schema.apart_key h.valid hd hk

omit [DecidableEq C] [DecidableEq N] in
theorem mem_keys {s : Schema T C N} {t : T} {k : Key C} : k ∈ s.keys t ↔
    (∃ d,s.table? t = some d ∧ ∃ u ∈ d.uniques,k = (u,none)) ∨
      ∃ i ∈ s.indexes,i.2.table = t ∧ i.2.unique = true ∧ k = (i.2.columns,i.2.filter) := by
  rw [Schema.keys,List.mem_append]
  apply or_congr
  · cases s.table? t with
    | none => simp
    | some d => simp [eq_comm]
  · simp only [List.mem_map,List.mem_filter,Bool.and_eq_true,decide_eq_true_eq,and_assoc]
    apply exists_congr
    intro i
    rw [eq_comm (a := k)]

theorem dropIndex_holds (h : st.Holds read content) {n : N} (hs : st.schema.step (.dropIndex n) = some schema) :
    ({ st with
      schema
      keys := st.keys ++ (st.schema.indexes.filter fun i => i.1 = n && i.2.unique && st.schema.hasTable i.2.table).map
        fun i => (i.2.table,i.2.columns,i.2.filter) } : Standing T C N).Holds read content := by
  simp only [Schema.step,Option.ite_none_right_eq_some,Option.some.injEq] at hs
  obtain ⟨_,rfl⟩ := hs
  refine ⟨?_,h.facts,?_⟩
  · refine Schema.valid_of_keys (s := st.schema) rfl h.valid fun t d hd k hk => Schema.apart_key h.valid hd ?_
    rw [mem_keys] at hk ⊢
    refine hk.imp_right ?_
    rintro ⟨i,hi,hrest⟩
    exact ⟨i,List.mem_of_mem_filter hi,hrest⟩
  · intro e he
    rcases List.mem_append.mp he with he | he
    · exact h.keys e he
    · obtain ⟨i,hi,rfl⟩ := List.mem_map.mp he
      obtain ⟨hi,hcond⟩ := List.mem_filter.mp hi
      simp only [Bool.and_eq_true,Schema.hasTable] at hcond
      obtain ⟨d,hd⟩ := Option.isSome_iff_exists.mp hcond.2
      exact Schema.apart_key h.valid hd (mem_keys.mpr (.inr ⟨i,hi,rfl,hcond.1.2,rfl⟩))

omit [DecidableEq N] in
theorem separates_apart (h : st.Holds read content) {i : Index T C} {d : TableDef T C}
    (hd : st.schema.table? i.table = some d) (hi : st.separates i = true) :
    (content i.table).Pairwise fun row other => clash read i.columns i.filter row other = false := by
  simp only [separates,Bool.or_eq_true,List.any_eq_true,Bool.and_eq_true,decide_eq_true_eq,List.all_eq_true,
    Option.any_eq_true,hd,Option.some.injEq] at hi
  rcases hi with ⟨k,hk,hfilter,hcolumns⟩ | ⟨_,rfl,f,hf,hnever⟩
  · refine (apart_of h hd hk).imp fun hapart => ?_
    rw [← Bool.not_eq_true] at hapart ⊢
    exact mt (clash_mono hfilter hcolumns) hapart
  · refine List.pairwise_of_forall_mem_list ?_
    intro row hrow other _
    rw [hf]
    exact clash_never (known_of h hd hrow) hnever

theorem createIndex_holds (h : st.Holds read content) {n : N} {i : Index T C}
    (hs : st.schema.step (.createIndex n i) = some schema) (hi : i.unique = true → st.separates i = true) :
    ({ st with schema } : Standing T C N).Holds read content := by
  simp only [Schema.step,Option.ite_none_right_eq_some,Option.some.injEq,Bool.and_eq_true,Schema.hasTable] at hs
  obtain ⟨⟨htable,_⟩,rfl⟩ := hs
  obtain ⟨d,hd⟩ := Option.isSome_iff_exists.mp htable
  refine holds_of_keys h rfl ?_
  intro t e he k hk
  rcases mem_keys.mp hk with hk | ⟨j,hj,rfl,hunique,rfl⟩
  · exact Schema.apart_key h.valid he (mem_keys.mpr (.inl hk))
  · rcases List.mem_append.mp hj with hj | hj
    · exact Schema.apart_key h.valid he (mem_keys.mpr (.inr ⟨j,hj,rfl,hunique,rfl⟩))
    · obtain rfl := List.mem_singleton.mp hj
      exact separates_apart h hd (hi hunique)

theorem createIndex_rows (h : st.Holds read content) {foreignKeys : Bool} {n : N} {i : Index T C}
    (hs : st.schema.step (.createIndex n i) = some schema) (hi : i.unique = true → st.separates i = true) :
    Database.stepRows read ⟨st.schema,content⟩ foreignKeys (.createIndex n i) = some content := by
  simp only [Schema.step,Option.ite_none_right_eq_some,Option.some.injEq,Bool.and_eq_true,Schema.hasTable] at hs
  obtain ⟨d,hd⟩ := Option.isSome_iff_exists.mp hs.1.1
  simp only [Database.stepRows]
  rw [if_pos]
  intro hunique
  refine (separates_apart h hd (hi hunique)).imp fun hapart => ?_
  simp [hapart]

theorem createTable_holds (h : st.Holds read content) {t : T} {d : TableDef T C}
    (hs : st.schema.step (.createTable t d) = some schema) (hreferences : st.unreferenced t = true)
    (hkeys : st.keys.all (·.1 ≠ t) = true) (hfacts : st.facts.all (·.1 ≠ t) = true) :
    ({ st with schema, keys := st.keys ++ [(t,[],none)] } : Standing T C N).Holds read (Function.update content t []) := by
  simp only [Schema.step,Option.ite_none_left_eq_some,Option.some.injEq] at hs
  obtain ⟨hnew,rfl⟩ := hs
  simp only [Schema.hasTable,Bool.not_eq_true,Option.isSome_eq_false_iff,Option.isNone_iff_eq_none] at hnew
  simp only [List.all_eq_true,decide_eq_true_eq] at hkeys hfacts
  simp only [unreferenced,List.all_eq_true,decide_eq_true_eq] at hreferences
  have htable (u : T) (hu : u ≠ t) :
      ({ st.schema with tables := st.schema.tables ++ [(t,d)] } : Schema T C N).table? u = st.schema.table? u := by
    have hne : ¬ t = u := fun heq => hu heq.symm
    simp [Schema.table?,List.find?_append,hne]
  refine ⟨⟨?_,?_,?_⟩,?_,?_⟩
  · intro u e hu row hrow
    by_cases hut : u = t
    · simp [hut] at hrow
    · rw [Function.update_of_ne hut] at hrow
      exact h.valid.passes u e (htable u hut ▸ hu) row hrow
  · intro u e hu
    by_cases hut : u = t
    · simp [hut]
    · rw [Function.update_of_ne hut]
      simp only [Schema.clashes_eq_false]
      apply Schema.pairwise_all
      intro k hk
      refine Schema.apart_key h.valid (htable u hut ▸ hu) ?_
      rwa [mem_keys,htable u hut,← mem_keys (s := st.schema)] at hk
  · rw [Schema.anchoredAll_iff]
    intro e he row hrow r hr
    rcases List.mem_append.mp he with he | he
    · have het : e.1 ≠ t := by
        intro heq
        have hfound := List.find?_eq_none.mp (Option.map_eq_none_iff.mp hnew) e he
        simp [heq] at hfound
      rw [Function.update_of_ne het] at hrow
      rw [Function.update_of_ne (hreferences e he r hr)]
      exact Schema.anchoredAll_iff.mp h.valid.anchored e he row hrow r hr
    · obtain rfl := List.mem_singleton.mp he
      simp at hrow
  · intro e he row hrow
    rw [Function.update_of_ne (hfacts e he)] at hrow
    exact h.facts e he row hrow
  · intro e he
    rcases List.mem_append.mp he with he | he
    · rw [Function.update_of_ne (hkeys e he)]
      exact h.keys e he
    · obtain rfl := List.mem_singleton.mp he
      simp

section Rebuild

variable {foreignKeys : Bool} {t : T} {old d : TableDef T C} {into : List C} {select : List (Supply T C)}

theorem rebuild_schema (hs : st.schema.step (.rebuild t d into select) = some schema) :
    schema = (st.schema.withoutTable t).withTable t d := by
  simp only [Schema.step,Option.ite_none_right_eq_some,Option.some.injEq] at hs
  exact hs.2.symm

omit [DecidableEq C] [DecidableEq N] in
/-- The second table has only the keys it was created with. -/
theorem rebuild_keys (hold : st.schema.table? t = some old) {k : Key C}
    (hk : k ∈ ((st.schema.withoutTable t).withTable t d).keys t) : ∃ u ∈ d.uniques,k = (u,none) := by
  rcases mem_keys.mp hk with ⟨e,he,hu⟩ | ⟨i,hi,ht,_⟩
  · rw [Schema.table?_withTable,if_pos rfl] at he
    have hsame : (st.schema.withoutTable t).table? t = some old := hold
    rw [hsame] at he
    obtain rfl := Option.some.inj he
    exact hu
  · have hgone := (List.mem_filter.mp hi).2
    simp [ht] at hgone

omit [DecidableEq C] [DecidableEq N] in
theorem rebuild_keys_others {u : T} (hu : u ≠ t) {k : Key C}
    (hk : k ∈ ((st.schema.withoutTable t).withTable t d).keys u) : k ∈ st.schema.keys u := by
  rw [mem_keys] at hk ⊢
  refine hk.imp ?_ ?_
  · rintro ⟨e,he,hrest⟩
    rw [Schema.table?_withTable,if_neg hu] at he
    exact ⟨e,he,hrest⟩
  · rintro ⟨i,hi,hrest⟩
    exact ⟨i,List.mem_of_mem_filter hi,hrest⟩

omit [DecidableEq N] in
theorem rebuild_holds (h : st.Holds read content) (hold : st.schema.table? t = some old)
    (hr : Rebuilds st t old d (supplyOf d into select) foreignKeys) :
    ({ schema := (st.schema.withoutTable t).withTable t d
       facts := st.facts.filter (·.1 ≠ t) ++ (st.knownAfter t old d (supplyOf d into select)).facts.map fun f => (t,f)
       keys := st.keys.filter (·.1 ≠ t) ++
        ((st.keysOf t).filter (carriedKey (supplyOf d into select))).map fun k => (t,k) } : Standing T C N).Holds read
      (Function.update content t ((content t).map (Database.restated content d into select))) := by
  have hg (row : Row C) (c : C) := restated_eq content d into select row c
  refine ⟨?_,?_,?_⟩
  · refine Schema.valid_replaced (s := st.schema) hold rfl (fun u hu k hk => rebuild_keys_others hu hk) h.valid ?_ ?_ ?_ ?_
    · exact fun row hrow => rebuild_passes hr h hold hg hrow
    · intro k hk
      obtain ⟨u,hu,rfl⟩ := rebuild_keys hold hk
      exact rebuild_uniques hr h hold hg hu
    · exact fun r hmem row _ => rebuild_anchored hr hg row hmem
    · exact fun e he r hmem ht row _ => copied hg (hr.parents e he r hmem ht) row
  · intro e he row hrow
    rcases List.mem_append.mp he with he | he
    · obtain ⟨he,het⟩ := List.mem_filter.mp he
      rw [Function.update_of_ne (of_decide_eq_true het)] at hrow
      exact h.facts e he row hrow
    · obtain ⟨f,hf,rfl⟩ := List.mem_map.mp he
      rw [Function.update_self] at hrow
      obtain ⟨before,hbefore,rfl⟩ := List.mem_map.mp hrow
      exact (knownAfter_of h hold hg hbefore).facts f hf
  · intro e he
    rcases List.mem_append.mp he with he | he
    · obtain ⟨he,het⟩ := List.mem_filter.mp he
      rw [Function.update_of_ne (of_decide_eq_true het)]
      exact h.keys e he
    · obtain ⟨k,hk,rfl⟩ := List.mem_map.mp he
      obtain ⟨hk,hcarried⟩ := List.mem_filter.mp hk
      rw [Function.update_self]
      exact carried_apart h hold hg hk hcarried

omit [DecidableEq N] in
theorem rebuild_rows (h : st.Holds read content) (hold : st.schema.table? t = some old)
    (hr : Rebuilds st t old d (supplyOf d into select) foreignKeys) :
    Database.stepRows read ⟨st.schema,content⟩ foreignKeys (.rebuild t d into select) =
      some (Function.update content t ((content t).map (Database.restated content d into select))) := by
  have hg (row : Row C) (c : C) := restated_eq content d into select row c
  simp only [Database.stepRows]
  rw [if_pos]
  refine ⟨?_,?_,?_⟩
  · rw [List.all_eq_true]
    intro row hrow
    obtain ⟨before,hbefore,rfl⟩ := List.mem_map.mp hrow
    exact rebuild_passes hr h hold hg hbefore
  · have hall : ∀ u ∈ d.uniques,((content t).map (Database.restated content d into select)).Pairwise
        fun row other => clash read u none row other = false := fun u hu => rebuild_uniques hr h hold hg hu
    refine (Schema.pairwise_all hall).imp fun hapart => ?_
    simpa using hapart
  · intro hforeign
    constructor
    · rw [Database.referred,List.any_eq_false]
      rintro ⟨u,e⟩ he
      simp only [Bool.and_eq_true,decide_eq_true_eq,List.any_eq_true,not_and,not_exists]
      intro hu r hmem ht
      exact absurd ht (hr.children hforeign (u,e) he hu r hmem)
    · rw [List.all_eq_true]
      intro row hrow
      obtain ⟨before,hbefore,rfl⟩ := List.mem_map.mp hrow
      simp only [Schema.anchored,List.all_eq_true,Bool.or_eq_true,decide_eq_true_eq,List.any_eq_true]
      intro r hmem
      rcases rebuild_anchored hr hg before hmem with hnull | ⟨hmem,hsame⟩
      · exact .inl hnull
      · rw [hsame]
        exact Schema.anchoredAll_iff.mp h.valid.anchored (t,old) (Schema.mem_tables hold) before hbefore r hmem

end Rebuild

section AddColumn

variable {t : T} {d : TableDef T C} {c : ColumnDef C} {checks : List (Condition C)}

omit [DecidableEq N] in
theorem addColumn_holds (h : st.Holds read content) (hd : st.schema.table? t = some d) (hx : Extends st t d c checks) :
    ({ st with schema := st.schema.withTable t (extendedTable d c checks) } : Standing T C N).Holds read
      (Function.update content t ((content t).map (extended c))) := by
  refine ⟨?_,?_,?_⟩
  · refine Schema.valid_replaced (s := st.schema) hd rfl ?_ h.valid (fun row hrow => extended_passes hx h hd hrow) ?_ ?_ ?_
    · intro u hu k hk
      rw [mem_keys,Schema.table?_withTable,if_neg hu] at hk
      exact mem_keys.mpr hk
    · intro k hk
      refine extended_apart hx h hd (List.mem_append_left _ ?_)
      rw [mem_keys,Schema.table?_withTable,if_pos rfl,hd] at hk
      refine mem_keys.mpr (hk.imp_left ?_)
      rintro ⟨e,he,hu⟩
      obtain rfl := Option.some.inj he
      exact ⟨d,hd,hu⟩
    · exact fun r hmem row _ => .inr ⟨hmem,extended_of_ne (hx.references r hmem) row⟩
    · intro e he r hmem ht row _
      refine extended_of_ne ?_ row
      rcases Schema.mem_withTable he with rfl | ⟨he,_⟩
      · exact hx.parents (t,d) (Schema.mem_tables hd) r hmem ht
      · exact hx.parents e he r hmem ht
  · intro e he row hrow
    by_cases het : e.1 = t
    · rw [het,Function.update_self] at hrow
      obtain ⟨before,hbefore,rfl⟩ := List.mem_map.mp hrow
      have hfact : e.2 ∈ (st.known t d).facts :=
        List.mem_append_right _ (List.mem_map_of_mem (List.mem_filter.mpr ⟨he,decide_eq_true het⟩))
      rw [extended_eval (hx.facts e.2 hfact)]
      exact h.facts e he before (het ▸ hbefore)
    · rw [Function.update_of_ne het] at hrow
      exact h.facts e he row hrow
  · intro e he
    by_cases het : e.1 = t
    · rw [het,Function.update_self]
      exact extended_apart hx h hd
        (List.mem_append_right _ (List.mem_map_of_mem (List.mem_filter.mpr ⟨he,decide_eq_true het⟩)))
    · rw [Function.update_of_ne het]
      exact h.keys e he

omit [DecidableEq N] in
theorem addColumn_rows (hx : Extends st t d c checks) (foreignKeys : Bool) :
    Database.stepRows read ⟨st.schema,content⟩ foreignKeys (.addColumn t c checks) =
      some (Function.update content t ((content t).map (extended c))) := by
  simp only [Database.stepRows]
  rw [if_pos]
  · rfl
  · simp only [List.all_eq_true,List.mem_map]
    rintro _ ⟨row,_,rfl⟩ f hf
    exact (congrArg accepts (extended_check read (hx.checks f hf).1 row)).trans (hx.checks f hf).2

end AddColumn

section Runs

variable {foreignKeys : Bool}

theorem step_sound (h : st.Holds read content) {statement : Statement T C N}
    (hst : st.step foreignKeys statement = some st') : ∃ content',
      Database.step read ⟨st.schema,content⟩ foreignKeys statement = some ⟨st'.schema,content'⟩ ∧ st'.Holds read content' := by
  obtain ⟨schema,hs,hst⟩ := Option.bind_eq_some_iff.mp hst
  -- the schema changes as known, so that only the rows are left to look at
  have hstep {content' : Content T C} (hrows : Database.stepRows read ⟨st.schema,content⟩ foreignKeys statement = some content') :
      Database.step read ⟨st.schema,content⟩ foreignKeys statement = some ⟨schema,content'⟩ := by
    simp [Database.step,hs,hrows]
  cases statement with
  | dropTrigger n =>
    obtain rfl := Option.some.inj hst
    exact ⟨content,hstep rfl,dropTrigger_holds h hs⟩
  | createTrigger n g =>
    obtain rfl := Option.some.inj hst
    exact ⟨content,hstep rfl,createTrigger_holds h hs⟩
  | dropIndex n =>
    obtain rfl := Option.some.inj hst
    exact ⟨content,hstep rfl,dropIndex_holds h hs⟩
  | createIndex n i =>
    simp only [Option.ite_none_right_eq_some,Option.some.injEq,Bool.or_eq_true,Bool.not_eq_true'] at hst
    obtain ⟨hi,rfl⟩ := hst
    have hseparates : i.unique = true → st.separates i = true := fun hunique => hi.resolve_left (by simp [hunique])
    exact ⟨content,hstep (createIndex_rows h hs hseparates),createIndex_holds h hs hseparates⟩
  | createTable t d =>
    simp only [Option.ite_none_right_eq_some,Option.some.injEq,Bool.and_eq_true] at hst
    obtain ⟨⟨⟨hreferences,hkeys⟩,hfacts⟩,rfl⟩ := hst
    exact ⟨_,hstep rfl,createTable_holds h hs hreferences hkeys hfacts⟩
  | rebuild t d into select =>
    obtain ⟨old,hold,hst⟩ := Option.bind_eq_some_iff.mp hst
    simp only [Option.ite_none_right_eq_some,Option.some.injEq] at hst
    obtain ⟨hr,rfl⟩ := hst
    have hrebuilds := rebuilds_sound hr
    obtain rfl := rebuild_schema hs
    exact ⟨_,hstep (rebuild_rows h hold hrebuilds),rebuild_holds h hold hrebuilds⟩
  | addColumn t c checks =>
    obtain ⟨d,hd,hst⟩ := Option.bind_eq_some_iff.mp hst
    simp only [Option.ite_none_right_eq_some,Option.some.injEq] at hst
    obtain ⟨hx,rfl⟩ := hst
    have hextends := extends_sound hx
    simp only [Schema.step,hd,Option.bind_some,Option.ite_none_right_eq_some,Option.some.injEq] at hs
    obtain ⟨_,rfl⟩ := hs
    exact ⟨_,hstep (addColumn_rows hextends foreignKeys),addColumn_holds h hd hextends⟩

theorem steps_sound (h : st.Holds read content) {statements : List (Statement T C N)}
    (hst : st.steps foreignKeys statements = some st') : ∃ content',
      Database.steps read foreignKeys ⟨st.schema,content⟩ statements = some ⟨st'.schema,content'⟩ ∧
        st'.Holds read content' := by
  induction statements generalizing st content with
  | nil =>
    obtain rfl := Option.some.inj hst
    exact ⟨content,rfl,h⟩
  | cons statement rest ih =>
    obtain ⟨next,hnext,hst⟩ := Option.bind_eq_some_iff.mp hst
    obtain ⟨after,hafter,hholds⟩ := step_sound h hnext
    obtain ⟨last,hlast,hend⟩ := ih hholds hst
    refine ⟨last,?_,hend⟩
    simpa [Database.steps,hafter] using hlast

theorem step_schema {statement : Statement T C N} (hst : st.step foreignKeys statement = some st') :
    st.schema.step statement = some st'.schema := by
  obtain ⟨schema,hs,hst⟩ := Option.bind_eq_some_iff.mp hst
  suffices hsame : st'.schema = schema by rw [hs,hsame]
  cases statement with
  | dropTrigger n | createTrigger n g | dropIndex n => exact Option.some.inj hst ▸ rfl
  | createIndex n i | createTable t d =>
    simp only [Option.ite_none_right_eq_some,Option.some.injEq] at hst
    exact hst.2 ▸ rfl
  | rebuild t d into select | addColumn t c checks =>
    obtain ⟨old,_,hst⟩ := Option.bind_eq_some_iff.mp hst
    simp only [Option.ite_none_right_eq_some,Option.some.injEq] at hst
    exact hst.2 ▸ rfl

theorem steps_schema {statements : List (Statement T C N)} (hst : st.steps foreignKeys statements = some st') :
    st.schema.steps statements = some st'.schema := by
  induction statements generalizing st with
  | nil => exact congrArg (some ·.schema) (Option.some.inj hst)
  | cons statement rest ih =>
    obtain ⟨next,hnext,hst⟩ := Option.bind_eq_some_iff.mp hst
    simp only [Schema.steps,step_schema hnext,Option.bind_some]
    exact ih hst

end Runs

end Standing

variable {T C N : Type} [DecidableEq T] [DecidableEq C] [DecidableEq N] {read : String → String → Cell}

/-- What is taken to hold of the rows before a stage. -/
def Stage.Assumed (read : String → String → Cell) (stage : Stage T C N) (content : Content T C) : Prop :=
  ∀ e ∈ stage.assumed,∀ row ∈ content e.1,accepts (e.2.eval read row) = true

omit [DecidableEq N] in
theorem Standing.establishes_sound {st : Standing T C N} {content : Content T C} (h : st.Holds read content)
    {stage : Stage T C N} (he : st.establishes stage.assumed = true) : stage.Assumed read content := by
  intro e hmem row hrow
  have hany := List.all_eq_true.mp he e hmem
  rw [Option.any_eq_true] at hany
  obtain ⟨d,hd,himplies⟩ := hany
  exact Known.implies_sound (known_of h hd hrow) himplies

/-- A migration that can be followed succeeds on a valid store, and leaves a valid one. -/
theorem migrate_sound {s : Schema T C N} {content : Content T C} (hv : s.Valid read content) {stage : Stage T C N}
    (ha : stage.Assumed read content) {st : Standing T C N}
    (hst : (Standing.start s stage.assumed).steps (!stage.migration.suspendsForeignKeys) stage.migration.statements =
      some st) : ∃ content',
      Database.migrate read ⟨s,content⟩ stage.migration = some ⟨st.schema,content'⟩ ∧ st.Holds read content' := by
  have hstart : (Standing.start s stage.assumed).Holds read content := ⟨hv,ha,fun _ he => nomatch he⟩
  obtain ⟨after,hafter,hholds⟩ := Standing.steps_sound hstart hst
  refine ⟨after,?_,hholds⟩
  have hbegin : (Standing.start s stage.assumed).schema = s := rfl
  rw [hbegin] at hafter
  simp [Database.migrate,hafter,hholds.valid.anchored]

/-- The schemas a list of stages goes through. -/
def Schema.afterStages (s : Schema T C N) (stages : List (Stage T C N)) : Schema T C N :=
  stages.foldl (fun s stage => s.migrated stage.migration) s

theorem safe_cons {s : Schema T C N} {stage : Stage T C N} {rest : List (Stage T C N)}
    (h : safe s (stage :: rest) = true) : ∃ st,
      (Standing.start s stage.assumed).steps (!stage.migration.suspendsForeignKeys) stage.migration.statements = some st ∧
        (∀ next ∈ rest.head?,st.establishes next.assumed = true) ∧ st.schema = s.migrated stage.migration ∧
          safe (s.migrated stage.migration) rest = true := by
  simp only [safe,Option.any_eq_true,Bool.and_eq_true,Option.all_eq_true] at h
  obtain ⟨st,hst,hnext,hrest⟩ := h
  have hschema : st.schema = s.migrated stage.migration := by
    have hsteps := Standing.steps_schema hst
    have hbegin : (Standing.start s stage.assumed).schema = s := rfl
    rw [hbegin] at hsteps
    simp [Schema.migrated,hsteps]
  exact ⟨st,hst,hnext,hschema,hschema ▸ hrest⟩

/-- A stage for what it takes to hold only. -/
def Stage.awaited (stage : Stage T C N) : Stage T C N := { stage with migration := ⟨0,false,[]⟩ }

/-- Stages are looked at apart from those that follow, with what the next one takes to hold. -/
theorem safe_append_of {s : Schema T C N} {before rest : List (Stage T C N)}
    (hbefore : safe s (before ++ rest.head?.toList.map Stage.awaited) = true)
    (hrest : safe (s.afterStages before) rest = true) : safe s (before ++ rest) = true := by
  induction before generalizing s with
  | nil => exact hrest
  | cons stage before ih =>
    obtain ⟨st,hst,hnext,hschema,hlater⟩ := safe_cons hbefore
    have hassumed : (before ++ rest).head?.all (fun next => st.establishes next.assumed) = true := by
      cases before with
      | nil =>
        cases rest with
        | nil => rfl
        | cons next _ => exact hnext next.awaited rfl
      | cons second _ => exact hnext second rfl
    rw [List.cons_append,safe,hst,Option.any_some,hschema,hassumed,ih hlater hrest]
    rfl

theorem safe_drop {s : Schema T C N} {before rest : List (Stage T C N)} (h : safe s (before ++ rest) = true) :
    safe (s.afterStages before) rest = true := by
  induction before generalizing s with
  | nil => exact h
  | cons stage before ih =>
    obtain ⟨_,_,_,_,hrest⟩ := safe_cons h
    exact ih hrest

theorem upgrade_sound {stages : List (Stage T C N)} {s : Schema T C N} {content : Content T C} (h : safe s stages = true)
    (hv : s.Valid read content) (ha : ∀ stage ∈ stages.head?,stage.Assumed read content) : ∃ content',
      Database.upgrade read ⟨s,content⟩ (stages.map (·.migration)) = some ⟨s.afterStages stages,content'⟩ ∧
        (s.afterStages stages).Valid read content' := by
  induction stages generalizing s content with
  | nil => exact ⟨content,rfl,hv⟩
  | cons stage rest ih =>
    obtain ⟨st,hst,hnext,hschema,hrest⟩ := safe_cons h
    obtain ⟨after,hafter,hholds⟩ := migrate_sound hv (ha stage rfl) hst
    rw [hschema] at hafter
    have hvalid := hholds.valid
    rw [hschema] at hvalid
    obtain ⟨last,hlast,hend⟩ := ih hrest hvalid fun next hmem => Standing.establishes_sound hholds (hnext next hmem)
    refine ⟨last,?_,hend⟩
    simp only [List.map_cons,Database.upgrade,hafter,Option.bind_some]
    exact hlast

end Sql
end LocalPlane
