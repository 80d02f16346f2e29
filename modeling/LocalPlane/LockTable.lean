import LocalPlane.Schema
import Mathlib.Data.List.Nodup

/-!
# Write locks

Durable serialisation of mutating Runs: one row per object and aspect, and one row
per Run. Both uniqueness constraints are part of the table, so no operation on it
can lose them.
-/

set_option linter.dupNamespace false

namespace LocalPlane

structure LockKey where
  host : ℕ
  object : ObjectId
  aspect : String
  deriving DecidableEq

structure LockRow where
  key : LockKey
  run : RunId
  deriving DecidableEq

structure LockTable where
  rows : List LockRow
  keyed : (rows.map (·.key)).Nodup
  owned : (rows.map (·.run)).Nodup

namespace LockTable

def empty : LockTable := ⟨[],List.nodup_nil,List.nodup_nil⟩

def forRun (t : LockTable) (run : RunId) : Option LockKey :=
  (t.rows.find? (·.run = run)).map (·.key)

def held (t : LockTable) (key : LockKey) : Option RunId :=
  (t.rows.find? (·.key = key)).map (·.run)

/-- Take the lock, or report that somebody else has it. Never waits. -/
def acquire (t : LockTable) (key : LockKey) (run : RunId) : Option LockTable :=
  if h : key ∉ t.rows.map (·.key) ∧ run ∉ t.rows.map (·.run) then
    some ⟨⟨key,run⟩ :: t.rows,List.nodup_cons.mpr ⟨h.1,t.keyed⟩,List.nodup_cons.mpr ⟨h.2,t.owned⟩⟩
  else none

/-- Scoped by run: no other Run's lock can be touched. -/
def release (t : LockTable) (run : RunId) : LockTable :=
  ⟨t.rows.filter (·.run ≠ run),t.keyed.sublist (List.filter_sublist.map _),
    t.owned.sublist (List.filter_sublist.map _)⟩

theorem mem_of_forRun {t : LockTable} {run : RunId} {key : LockKey} (h : t.forRun run = some key) :
    ⟨key,run⟩ ∈ t.rows := by
  simp only [forRun,Option.map_eq_some_iff] at h
  obtain ⟨row,hrow,rfl⟩ := h
  have hr : row.run = run := by simpa using List.find?_some hrow
  exact hr ▸ List.mem_of_find?_eq_some hrow

theorem forRun_eq_none {t : LockTable} {run : RunId} :
    t.forRun run = none ↔ run ∉ t.rows.map (·.run) := by
  simp [forRun]

@[simp] theorem forRun_empty (run : RunId) : empty.forRun run = none := rfl

/-- Two Runs never hold one object and aspect at the same time. -/
theorem exclusive {t : LockTable} {run run' : RunId} {key : LockKey} (h : t.forRun run = some key)
    (h' : t.forRun run' = some key) : run = run' := by
  have hrow := List.inj_on_of_nodup_map t.keyed (mem_of_forRun h) (mem_of_forRun h') rfl
  exact congrArg LockRow.run hrow

theorem forRun_acquire {t t' : LockTable} {key : LockKey} {run : RunId}
    (h : t.acquire key run = some t') (r : RunId) :
    t'.forRun r = if r = run then some key else t.forRun r := by
  unfold acquire at h
  split at h
  · simp only [Option.some.injEq] at h
    subst h
    by_cases hr : r = run
    · simp [forRun,hr]
    · simp [forRun,hr,Ne.symm hr]
  · cases h

/-- Only a Run that holds nothing takes a lock. -/
theorem forRun_of_acquire {t t' : LockTable} {key : LockKey} {run : RunId} (h : t.acquire key run = some t') :
    t.forRun run = none := by
  unfold acquire at h
  split at h
  · next hn => exact forRun_eq_none.mpr hn.2
  · cases h

@[simp] theorem forRun_release (t : LockTable) (run r : RunId) :
    (t.release run).forRun r = if r = run then none else t.forRun r := by
  split
  · next hr => subst hr; simp [forRun_eq_none,release]
  · next hr =>
    simp only [forRun,release,List.find?_filter]
    congr 2
    funext row
    by_cases hrow : row.run = r <;> simp [hrow,hr]

/-- The insert succeeds when the key is free and the Run holds nothing. -/
theorem acquire_isSome {t : LockTable} {key : LockKey} {run : RunId} (hr : t.forRun run = none)
    (hk : ∀ r, t.forRun r ≠ some key) : (t.acquire key run).isSome := by
  have hkey : key ∉ t.rows.map (·.key) := by
    intro hm
    obtain ⟨row,hrow,rfl⟩ := List.mem_map.mp hm
    cases hf : t.forRun row.run with
    | none => exact forRun_eq_none.mp hf (List.mem_map_of_mem hrow)
    | some k =>
      have he := List.inj_on_of_nodup_map t.owned (mem_of_forRun hf) hrow rfl
      exact hk row.run (by rw [hf,← he])
  rw [acquire,dif_pos ⟨hkey,forRun_eq_none.mp hr⟩]
  rfl

end LockTable
end LocalPlane
