import Mathlib.Data.List.Nodup
import Mathlib.Data.Nat.Notation
import Mathlib.Logic.Function.Basic
import Mathlib.Order.Basic
import Mathlib.Tactic.Common

/-!
# Claims that open, are refreshed and are resolved

A table whose rows are never deleted: a primary key counted up, and a unique index on the
key of the rows still open. What is open under each key is all that its users reason about.
-/

set_option linter.dupNamespace false

namespace LocalPlane

structure Episode (κ ε ρ : Type) where
  id : ℕ
  key : κ
  evidence : ε
  resolution : Option ρ

def Episode.isOpen {κ ε ρ : Type} (r : Episode κ ε ρ) : Bool := r.resolution.isNone

structure Episodes (κ ε ρ : Type) where
  rows : List (Episode κ ε ρ)
  counted : ∀ r ∈ rows, r.id < rows.length
  primary : (rows.map (·.id)).Nodup
  single : ∀ r ∈ rows, ∀ r' ∈ rows, r.isOpen → r'.isOpen → r.key = r'.key → r = r'

namespace Episodes

variable {κ ε ρ : Type}

instance : EmptyCollection (Episodes κ ε ρ) := ⟨⟨[],by simp,by simp,by simp⟩⟩

theorem id_eq (t : Episodes κ ε ρ) {r r' : Episode κ ε ρ} (hr : r ∈ t.rows) (hr' : r' ∈ t.rows) (h : r.id = r'.id) : r = r' :=
  List.inj_on_of_nodup_map t.primary hr hr' h

variable [DecidableEq κ] (t : Episodes κ ε ρ)

def openForKey (key : κ) : Option (Episode κ ε ρ) := t.rows.find? fun r => r.isOpen ∧ r.key = key

/-- Which row is open under a key, and what it says. -/
def current (key : κ) : Option (ℕ × ε) := (t.openForKey key).map fun r => (r.id,r.evidence)

def openWhere (p : κ → Bool) : List (Episode κ ε ρ) := t.rows.filter fun r => r.isOpen ∧ p r.key

variable {t} {key : κ} {r : Episode κ ε ρ}

theorem openForKey_some : t.openForKey key = some r ↔ r ∈ t.rows ∧ r.isOpen ∧ r.key = key := by
  constructor
  · intro h
    unfold openForKey at h
    have hp := List.find?_some h
    simp only [decide_eq_true_eq] at hp
    exact ⟨List.mem_of_find?_eq_some h,hp.1,hp.2⟩
  · rintro ⟨hr,hopen,rfl⟩
    cases hf : t.openForKey r.key with
    | none =>
      unfold openForKey at hf
      have hnone := List.find?_eq_none.mp hf r hr
      simp [hopen] at hnone
    | some r' =>
      unfold openForKey at hf
      have hp := List.find?_some hf
      simp only [decide_eq_true_eq] at hp
      rw [t.single r hr r' (List.mem_of_find?_eq_some hf) hopen hp.1 hp.2.symm]

theorem openForKey_none : t.openForKey key = none ↔ ∀ r ∈ t.rows, r.isOpen → r.key ≠ key := by
  simp [openForKey,List.find?_eq_none]

@[simp] theorem current_none : t.current key = none ↔ t.openForKey key = none := Option.map_eq_none_iff

theorem current_some {e : ℕ × ε} : t.current key = some e ↔ ∃ r ∈ t.rows, r.isOpen ∧ r.key = key ∧ (r.id,r.evidence) = e := by
  simp only [current,Option.map_eq_some_iff,openForKey_some]
  exact ⟨fun ⟨r,⟨hr,ho,hk⟩,he⟩ => ⟨r,hr,ho,hk,he⟩,fun ⟨r,hr,ho,hk,he⟩ => ⟨r,⟨hr,ho,hk⟩,he⟩⟩

/-- At most one row is open under a key. -/
theorem openWhere_single (t : Episodes κ ε ρ) (key : κ) : (t.openWhere (· = key)).length ≤ 1 := by
  have hnodup : (t.openWhere (· = key)).Nodup := (List.Nodup.of_map _ t.primary).filter _
  refine Nat.le_of_not_lt fun hlt => ?_
  obtain ⟨a,b,rest,hl⟩ : ∃ a b rest, t.openWhere (· = key) = a :: b :: rest := by
    match hm : t.openWhere (· = key) with
    | [] | [_] => simp [hm] at hlt
    | a :: b :: rest => exact ⟨a,b,rest,rfl⟩
  have hmem : ∀ r ∈ a :: b :: rest, r ∈ t.rows ∧ r.isOpen ∧ r.key = key := fun r hr => by
    obtain ⟨hr,hp⟩ := List.mem_filter.mp (show r ∈ t.openWhere (· = key) from hl ▸ hr)
    simp only [decide_eq_true_eq] at hp
    exact ⟨hr,hp⟩
  have ha := hmem a (by simp)
  have hb := hmem b (by simp)
  rw [hl,t.single a ha.1 b hb.1 ha.2.1 hb.2.1 (ha.2.2.trans hb.2.2.symm)] at hnodup
  simp at hnodup

section Insert

/-- A new open row. The unique index refuses a second one under the same key. -/
def insert (t : Episodes κ ε ρ) (key : κ) (e : ε) : Option (Episodes κ ε ρ) :=
  if h : t.openForKey key = none then
    some ⟨t.rows ++ [⟨t.rows.length,key,e,none⟩],by
      intro r hr
      rcases List.mem_append.mp hr with hr | hr
      · exact Nat.lt_of_lt_of_le (t.counted r hr) (by simp)
      · obtain rfl := List.mem_singleton.mp hr
        simp,by
      rw [List.map_append,List.map_singleton,List.nodup_append_comm]
      refine List.nodup_cons.mpr ⟨fun hmem => ?_,t.primary⟩
      obtain ⟨r,hr,hid⟩ := List.mem_map.mp hmem
      exact absurd (t.counted r hr) (by simp [hid]),by
      have hfree := openForKey_none.mp h
      intro r hr r' hr' ho ho' hk
      rcases List.mem_append.mp hr with hr | hr <;> rcases List.mem_append.mp hr' with hr' | hr'
      · exact t.single r hr r' hr' ho ho' hk
      · obtain rfl := List.mem_singleton.mp hr'
        exact absurd hk (hfree r hr ho)
      · obtain rfl := List.mem_singleton.mp hr
        exact absurd hk.symm (hfree r' hr' ho')
      · rw [List.mem_singleton.mp hr,List.mem_singleton.mp hr']⟩
  else none

theorem current_insert {t' : Episodes κ ε ρ} {e : ε} (h : t.insert key e = some t') :
    t'.current = Function.update t.current key (some (t.rows.length,e)) := by
  unfold insert at h
  split at h
  · next hfree =>
    cases h
    funext other
    by_cases ho : other = key
    · subst ho
      rw [Function.update_self]
      exact current_some.mpr ⟨_,List.mem_append_right _ (List.mem_singleton.mpr rfl),rfl,rfl,rfl⟩
    · rw [Function.update_of_ne ho]
      simp only [current,openForKey,List.find?_append]
      have hnew : List.find? (fun r : Episode κ ε ρ => decide (r.isOpen ∧ r.key = other)) [⟨t.rows.length,key,e,none⟩] = none := by
        simp [Ne.symm ho]
      rw [hnew,Option.or_none]
  · cases h

end Insert

section Modify

/-- Change one row in place, its keys apart, and open none again. -/
def modify (t : Episodes κ ε ρ) (id : ℕ) (f : Episode κ ε ρ → ε × Option ρ) (hf : ∀ r, (f r).2 = none → r.isOpen) :
    Episodes κ ε ρ where
  rows := t.rows.map fun r => if r.id = id then ⟨r.id,r.key,(f r).1,(f r).2⟩ else r
  counted := by
    rintro _ hq
    obtain ⟨r,hr,rfl⟩ := List.mem_map.mp hq
    rw [List.length_map]
    split <;> exact t.counted r hr
  primary := by
    have hid : (fun q : Episode κ ε ρ => q.id) ∘ (fun r => if r.id = id then ⟨r.id,r.key,(f r).1,(f r).2⟩ else r) = (·.id) := by
      funext r
      simp only [Function.comp_apply]
      split <;> rfl
    rw [List.map_map,hid]
    exact t.primary
  single := by
    intro q hq q' hq' ho ho' hk
    obtain ⟨r,hr,rfl⟩ := List.mem_map.mp hq
    obtain ⟨r',hr',rfl⟩ := List.mem_map.mp hq'
    have hopen : ∀ p : Episode κ ε ρ, (if p.id = id then ⟨p.id,p.key,(f p).1,(f p).2⟩ else p : Episode κ ε ρ).isOpen →
        p.isOpen := fun p hp => by
      split at hp
      · exact hf p (Option.isNone_iff_eq_none.mp hp)
      · exact hp
    have hkey : ∀ p : Episode κ ε ρ, (if p.id = id then ⟨p.id,p.key,(f p).1,(f p).2⟩ else p : Episode κ ε ρ).key = p.key :=
      fun p => by split <;> rfl
    have heq : r = r' := t.single r hr r' hr' (hopen r ho) (hopen r' ho') ((hkey r).symm.trans (hk.trans (hkey r')))
    rw [heq]

/-- Refresh the evidence of a row. -/
def update (t : Episodes κ ε ρ) (id : ℕ) (f : ε → ε) : Episodes κ ε ρ :=
  t.modify id (fun r => (f r.evidence,r.resolution)) fun _ h => Option.isNone_iff_eq_none.mpr h

def resolve (t : Episodes κ ε ρ) (id : ℕ) (resolution : ρ) : Episodes κ ε ρ :=
  t.modify id (fun r => (r.evidence,some resolution)) fun _ h => nomatch h

omit [DecidableEq κ] in
theorem mem_update {id : ℕ} {f : ε → ε} {q : Episode κ ε ρ} : q ∈ (t.update id f).rows ↔
    ∃ r ∈ t.rows, q = if r.id = id then ⟨r.id,r.key,f r.evidence,r.resolution⟩ else r := by
  simp only [update,modify,List.mem_map,eq_comm (a:=q)]

omit [DecidableEq κ] in
theorem mem_resolve {id : ℕ} {resolution : ρ} {q : Episode κ ε ρ} : q ∈ (t.resolve id resolution).rows ↔
    ∃ r ∈ t.rows, q = if r.id = id then ⟨r.id,r.key,r.evidence,some resolution⟩ else r := by
  simp only [resolve,modify,List.mem_map,eq_comm (a:=q)]

theorem current_ext {t' : Episodes κ ε ρ} {k k' : κ} (h : ∀ e, t'.current k' = some e ↔ t.current k = some e) :
    t'.current k' = t.current k := Option.ext fun e => h e

theorem current_update (h : t.openForKey key = some r) (f : ε → ε) :
    (t.update r.id f).current = Function.update t.current key (some (r.id,f r.evidence)) := by
  obtain ⟨hr,hopen,rfl⟩ := openForKey_some.mp h
  funext other
  by_cases ho : other = r.key
  · subst ho
    rw [Function.update_self]
    exact current_some.mpr ⟨_,mem_update.mpr ⟨r,hr,(if_pos rfl).symm⟩,hopen,rfl,rfl⟩
  · rw [Function.update_of_ne ho]
    refine current_ext fun e => ?_
    simp only [current_some]
    constructor
    · rintro ⟨q,hq,hqo,hqk,hqe⟩
      obtain ⟨p,hp,rfl⟩ := mem_update.mp hq
      split at hqo
      · next hid =>
        rw [if_pos hid] at hqk
        exact absurd (t.id_eq hp hr hid ▸ hqk.symm) ho
      · next hid =>
        rw [if_neg hid] at hqk hqe
        exact ⟨p,hp,hqo,hqk,hqe⟩
    · rintro ⟨p,hp,hpo,hpk,hpe⟩
      have hid : p.id ≠ r.id := fun hid => ho (t.id_eq hp hr hid ▸ hpk.symm)
      exact ⟨p,mem_update.mpr ⟨p,hp,(if_neg hid).symm⟩,hpo,hpk,hpe⟩

omit [DecidableEq κ] in
theorem rows_foldl_resolve (resolution : ρ) (l : List (Episode κ ε ρ)) (t : Episodes κ ε ρ) :
    (l.foldl (fun t r => t.resolve r.id resolution) t).rows =
      t.rows.map fun r => if r.id ∈ l.map (·.id) then ⟨r.id,r.key,r.evidence,some resolution⟩ else r := by
  induction l generalizing t with
  | nil => simp
  | cons q l ih =>
    rw [List.foldl_cons,ih]
    simp only [resolve,modify,List.map_map]
    refine List.map_congr_left fun r _ => ?_
    simp only [Function.comp_apply,List.map_cons,List.mem_cons]
    by_cases hid : r.id = q.id
    · simp only [hid,if_true,true_or]
      split <;> rfl
    · simp [hid]

/-- Resolving every row open under some keys leaves the other keys as they were. -/
theorem current_foldl_resolve (p : κ → Bool) (resolution : ρ) :
    (((t.openWhere p).foldl (fun t r => t.resolve r.id resolution) t).current) =
      fun k => if p k then none else t.current k := by
  have hresolved : ∀ r ∈ t.rows, r.id ∈ (t.openWhere p).map (·.id) ↔ r.isOpen ∧ p r.key := by
    intro r hr
    constructor
    · intro hmem
      obtain ⟨q,hq,hid⟩ := List.mem_map.mp hmem
      obtain ⟨hq,hp⟩ := List.mem_filter.mp hq
      rw [t.id_eq hr hq hid.symm]
      exact of_decide_eq_true hp
    · intro h
      exact List.mem_map_of_mem (List.mem_filter.mpr ⟨hr,decide_eq_true h⟩)
  funext k
  refine Option.ext fun e => ?_
  rw [current_some,rows_foldl_resolve]
  constructor
  · rintro ⟨q,hq,ho,hk,he⟩
    obtain ⟨r,hr,rfl⟩ := List.mem_map.mp hq
    split at ho
    · cases ho
    · next hnot =>
      rw [if_neg hnot] at hk he
      have hpk : ¬p k := fun hp => hnot ((hresolved r hr).mpr ⟨ho,hk ▸ hp⟩)
      rw [if_neg hpk]
      exact current_some.mpr ⟨r,hr,ho,hk,he⟩
  · intro h
    split at h
    · cases h
    · next hpk =>
      obtain ⟨r,hr,ho,hk,he⟩ := current_some.mp h
      have hnot : ¬r.id ∈ (t.openWhere p).map (·.id) := fun hmem => hpk (hk ▸ ((hresolved r hr).mp hmem).2)
      exact ⟨r,List.mem_map.mpr ⟨r,hr,if_neg hnot⟩,ho,hk,he⟩

theorem current_resolve (h : t.openForKey key = some r) (resolution : ρ) :
    (t.resolve r.id resolution).current = Function.update t.current key none := by
  obtain ⟨hr,hopen,rfl⟩ := openForKey_some.mp h
  funext other
  refine Option.ext fun e => ?_
  rw [current_some]
  constructor
  · rintro ⟨q,hq,ho,hk,he⟩
    obtain ⟨p,hp,rfl⟩ := mem_resolve.mp hq
    split at ho
    · cases ho
    · next hid =>
      rw [if_neg hid] at hk he
      have hother : other ≠ r.key := fun heq => hid (t.single p hp r hr ho hopen (hk.trans heq) ▸ rfl)
      rw [Function.update_of_ne hother]
      exact current_some.mpr ⟨p,hp,ho,hk,he⟩
  · intro he
    by_cases hother : other = r.key
    · rw [hother,Function.update_self] at he
      cases he
    · rw [Function.update_of_ne hother] at he
      obtain ⟨p,hp,ho,hk,he⟩ := current_some.mp he
      have hid : p.id ≠ r.id := fun hid => hother (t.id_eq hp hr hid ▸ hk.symm)
      exact ⟨p,mem_resolve.mpr ⟨p,hp,(if_neg hid).symm⟩,ho,hk,he⟩

end Modify

end Episodes
end LocalPlane
