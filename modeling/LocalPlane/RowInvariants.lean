import LocalPlane.Soundness

/-!
# Invariants of a Run's rows and its lock

What one move does to the rows and the lock of a Run, and with it the rule for
invariants about them: a commit, an acquisition and a call are looked at, and nothing else.
-/

set_option linter.dupNamespace false

namespace LocalPlane

open Interleaved.Contract

/-- The store's CHECKs accept every row. -/
structure Rows.Checked (x : Rows) : Prop where
  run : x.run.check = true
  guard : ∀ g, x.guard = some g → g.check = true
  change : ∀ ch, x.change = some ch → ch.check = true
  attempts : ∀ a ∈ x.attempts, a.check = true

theorem RunFile.rows_checked (f : RunFile) : f.rows.Checked where
  run := f.run.2
  guard g hg := by
    obtain ⟨g,_,rfl⟩ := Option.map_eq_some_iff.mp hg
    exact g.2
  change ch hch := by
    obtain ⟨ch,_,rfl⟩ := Option.map_eq_some_iff.mp hch
    exact ch.2
  attempts a ha := by
    obtain ⟨a,_,rfl⟩ := List.mem_map.mp ha
    exact a.2

namespace World

variable {w w' : World} {i : RequestId} {op : Op} {out : Outside}

/-- The worlds one operation of request `i` may leave. -/
inductive Moved (i : RequestId) (op : Op) (w : World) : World → Prop
  | heard (w' : World) (h : Heard (some i) w w') : Moved i op w w'
  | acquired (r : RunId) (locks : LockTable) (hop : op = .acquire r) (ha : (w.files r).state.appliable)
      (hl : w.locks.acquire (w.files r).lockKey r = some locks) : Moved i op w { w with locks }
  | committed (r : RunId) (c : Commit) (f : RunFile) (hop : op = .commit r c) (hr : r ∈ w.runs)
      (hf : c.run i (w.isLocked r) (w.files r) = .ok f) : Moved i op w
        { w.setFile r f with locks := if c.releases then w.locks.release r else w.locks }
  | served (hop : op = .serve) : Moved i op w { w with phase := .serving }

theorem perform_moved (i : RequestId) (op : Op) (out : Outside) (w : World) : Moved i op w (perform i op out w).2 := by
  cases op with
  | commit r c =>
    simp only [perform]
    rcases commit_cases w i r c with ⟨e,he⟩ | ⟨f,hr,hf,he⟩
    · rw [he]; exact .heard _ (heard_refl rfl rfl rfl rfl rfl)
    · rw [he]; exact .committed r c f rfl hr hf
  | acquire r =>
    simp only [perform,acquire]
    split
    · next ha =>
      split
      · exact .heard _ (heard_refl rfl rfl rfl rfl rfl)
      · split
        · next locks hl => exact .acquired r locks rfl ha hl
        · exact .heard _ (heard_refl rfl rfl rfl rfl rfl)
    · exact .heard _ (heard_refl rfl rfl rfl rfl rfl)
  | mutate r m => exact .heard _ (mutate_heard w i r m _ _)
  | armGuard r guard => exact .heard _ (armGuard_heard w i r guard _)
  | disarmGuard r => exact .heard _ (disarmGuard_heard w i r _)
  | guardStatus r => exact .heard _ (guardStatus_heard w i r _)
  | serve => exact .served rfl
  | _ => exact .heard _ (heard_refl rfl rfl rfl rfl rfl)

theorem enter_same {q : Request} (h : enter q w = some (i,w')) : w'.files = w.files ∧ w'.locks = w.locks := by
  unfold enter at h
  repeat' split at h
  all_goals cases h
  all_goals exact ⟨rfl,rfl⟩

end World

/-- The runs in which every operation is performed where `P` allows it. -/
def stepwise (P : World → Op → Prop) : Interleaved.Regime engine where
  step _ op _ w := P w op

section

variable (P : World → Op → Prop) [dec : ∀ w op, Decidable (P w op)]

instance (i : ℕ) (op : engine.sig.Op) (a : engine.Outside) (w : engine.World) : Decidable ((stepwise P).step i op a w) :=
  dec w op

instance (e : engine.External) (w : engine.World) : Decidable ((stepwise P).outer e w) := .isTrue trivial

instance (w : engine.World) : Decidable ((stepwise P).crash w) := .isTrue trivial

end

/-- An invariant of every Run's rows and lock, and what it owes. -/
structure Kept (R : Interleaved.Regime engine) (K : Rows → Option LockKey → Prop) : Prop where
  pristine : ∀ {f : RunFile}, f.pristine → K f.rows none
  heard : ∀ {x l} journal, K x l → K { x with journal } l
  acquire : ∀ {f : RunFile}, f.state.appliable → K f.rows none → K f.rows (some f.lockKey)
  commit : ∀ {i w r c out f}, World.Inv w → World.Licence i (.commit r c) w → R.step i (.commit r c) out w →
    c.run i (w.isLocked r) (w.files r) = .ok f → f.rows = c.rows i (w.files r).rows →
    c.Requires (w.isLocked r) (w.files r).rows → K (w.files r).rows (w.locks.forRun r) →
    K f.rows (if c.releases then none else w.locks.forRun r)

theorem Kept.preserved {R : Interleaved.Regime engine} {K : Rows → Option LockKey → Prop} (h : Kept R K) :
    protocol.Preserved R fun w => ∀ r, K (w.files r).rows (w.locks.forRun r) where
  initial {w} hw r := by
    have hnone : w.locks.forRun r = none := by rw [hw.locks]; rfl
    rw [hnone]; exact h.pristine (hw.pristine r)
  step := by
    intro i op (w : World) out hI hl hR hK r
    have hmoved := World.perform_moved i op out w
    show K ((World.perform i op out w).2.files r).rows ((World.perform i op out w).2.locks.forRun r)
    generalize (World.perform i op out w).2 = v at hmoved ⊢
    cases hmoved with
    | heard v hv =>
      obtain ⟨new,hn,_⟩ := hv.rows r
      rw [hn,hv.locks]; exact h.heard _ (hK r)
    | acquired a locks hop ha hla =>
      have hfor := LockTable.forRun_acquire hla r
      simp only [hfor]
      split
      · next hra =>
        subst hra
        have hnone : w.locks.forRun r = none := LockTable.forRun_of_acquire hla
        exact h.acquire ha (hnone ▸ hK r)
      · exact hK r
    | committed a c f hop ha hf =>
      subst hop
      obtain ⟨hreq,hrows⟩ := Commit.run_ok hf
      show K ((w.setFile a f).files r).rows ((if c.releases then w.locks.release a else w.locks).forRun r)
      rw [World.rows_setFile]
      split
      · next hra =>
        subst hra
        have hlock : (if c.releases then w.locks.release r else w.locks).forRun r =
            if c.releases then none else w.locks.forRun r := by split <;> simp
        rw [hlock]
        exact h.commit hI hl hR hf hrows hreq (hK r)
      · next hra =>
        have hlock : (if c.releases then w.locks.release a else w.locks).forRun r = w.locks.forRun r := by
          split <;> simp [hra]
        rw [hlock]; exact hK r
    | served hop => exact hK r
  enter {q w i w'} _ he hK r := by
    obtain ⟨hfiles,hlocks⟩ := World.enter_same he
    rw [hfiles,hlocks]; exact hK r
  outer {e w w'} _ _ he hK r := by
    obtain ⟨new,hn,_⟩ := (World.outer_heard he).rows r
    rw [hn,(World.outer_heard he).locks]; exact h.heard _ (hK r)
  crash _ _ hK := hK

end LocalPlane
