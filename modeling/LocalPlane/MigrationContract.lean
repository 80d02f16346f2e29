import LocalPlane.MigrationStore
import LocalPlane.RelyGuarantee

/-!
# What processes that open one store owe each other

A process writes to nothing but its own transaction, and commits only what keeps the file
exact. While its transaction is open no other process moves the file.
-/

set_option linter.dupNamespace false

namespace LocalPlane
namespace MigrationRuns

open Interleaved Interleaved.Contract

def Kind.isOrdinary : Kind → Bool
  | ordinary => true
  | _ => false

/-- The steps that leave no connection suspended or inside a transaction. -/
def Kept (engine : Engine) (i : ℕ) (sql : Sql) (outcome : Outcome) (w : Store) : Prop :=
  (w.connection i).alive = true → match sql with
  | .beginImmediate => (w.connection i).foreignKeys = false → outcome = .done ∧ w.pending = none
  | .statement text => (engine.kind text).isOrdinary = true ∧ outcome ≠ .raised
  | .foreignKeyCheck | .insertLedger _ => outcome ≠ .raised
  | .rollback => outcome = .done ∧ w.inTransaction i = true
  | .commit => outcome = .done
  | .foreignKeys on => on = true → (w.connection i).began = true → outcome = .done
  | _ => True

instance (engine : Engine) (i : ℕ) (sql : Sql) (outcome : Outcome) (w : Store) : Decidable (Kept engine i sql outcome w) := by
  unfold Kept
  cases sql <;> infer_instance

variable (engine : Engine)

def careful : Regime (processes engine) where
  step := Kept engine

/-- What one connection may do to the store: nothing under another's transaction, and to the file only what
keeps it exact. -/
structure Own (i : ℕ) (w w' : Store) : Prop where
  opened : w'.opened = w.opened
  others : ∀ j, j ≠ i → w'.connection j = w.connection j
  alive : (w'.connection i).alive = (w.connection i).alive
  locked : ∀ j c, j ≠ i → w.pending = some (j,c) → w'.pending = some (j,c) ∧ w'.file = w.file
  owner : ∀ j c, w'.pending = some (j,c) → (j = i ∧ (w.connection i).alive = true) ∨ w.pending = some (j,c)
  grows : ∀ m ∈ w.file.recorded, m ∈ w'.file.recorded
  faithful : w.file.Exact engine → w'.file.Exact engine

/-- The file is exact, and a transaction belongs to a process that lives. -/
structure Store.Inv (w : Store) : Prop where
  faithful : w.file.Exact engine
  owner : ∀ i c, w.pending = some (i,c) → (w.connection i).alive = true
  opened : ∀ i, w.opened ≤ i → (w.connection i).alive = false

/-- What a process that lives on may rely on. -/
structure Others (i : ℕ) (w w' : Store) : Prop where
  connection : w'.connection i = w.connection i
  inside : ∀ c, w.pending = some (i,c) → w'.pending = some (i,c) ∧ w'.file = w.file
  outside : w.inTransaction i = false → w'.inTransaction i = false
  grows : ∀ m ∈ w.file.recorded, m ∈ w'.file.recorded

def Licensed (i : ℕ) (sql : Sql) (w : Store) : Prop :=
  (w.connection i).alive = true → match sql with
  | .statement _ | .insertLedger _ => w.inTransaction i = true
  | .commitIfOpen => w.inTransaction i = false
  | .commit => ∃ c, w.pending = some (i,c) ∧ c.Exact engine ∧ ∀ m ∈ w.file.recorded, m ∈ c.recorded
  | _ => True

variable {engine} {i : ℕ} {w w' : Store}

theorem Own.refl (w : Store) : Own engine i w w :=
  ⟨rfl,fun _ _ => rfl,rfl,fun _ _ _ h => ⟨h,rfl⟩,fun _ _ h => .inr h,fun _ h => h,id⟩

theorem Own.trans {w'' : Store} (h : Own engine i w w') (h' : Own engine i w' w'') : Own engine i w w'' where
  opened := h'.opened.trans h.opened
  others j hj := (h'.others j hj).trans (h.others j hj)
  alive := h'.alive.trans h.alive
  locked j c hj hp := by
    obtain ⟨hp',hf⟩ := h.locked j c hj hp
    obtain ⟨hp'',hf'⟩ := h'.locked j c hj hp'
    exact ⟨hp'',hf'.trans hf⟩
  owner j c hp := by
    rcases h'.owner j c hp with ⟨hj,ha⟩ | hp
    · exact .inl ⟨hj,h.alive ▸ ha⟩
    · exact h.owner j c hp
  grows m hm := h'.grows m (h.grows m hm)
  faithful hx := h'.faithful (h.faithful hx)

/-- A change of what is noted of the connection alone. -/
theorem Own.connection {change : Connection → Connection} (h : ∀ c, (change c).alive = c.alive) :
    Own engine i w (w.setConnection i change) where
  opened := rfl
  others j hj := by simp [Store.setConnection,hj]
  alive := by simp [Store.setConnection,h]
  locked _ _ _ hp := ⟨hp,rfl⟩
  owner _ _ hp := .inr hp
  grows _ hm := hm
  faithful hx := hx

theorem inTransaction_iff : w.inTransaction i = true ↔ ∃ c, w.pending = some (i,c) := by
  unfold Store.inTransaction
  cases hp : w.pending with
  | none => simp
  | some owned =>
    obtain ⟨j,c⟩ := owned
    simp only [Option.any_some,decide_eq_true_eq,Option.some.injEq,Prod.mk.injEq]
    exact ⟨fun h => ⟨c,h,rfl⟩,fun ⟨_,h,_⟩ => h⟩

/-- A write of a process that lives into its own transaction. -/
theorem Own.write {change : Contents → Option Contents} (ha : (w.connection i).alive = true)
    (hin : w.inTransaction i = true) (h : w.write i change = some w') : Own engine i w w' := by
  obtain ⟨c,hp⟩ := inTransaction_iff.mp hin
  simp only [Store.write,hp,if_true,Option.map_eq_some_iff] at h
  obtain ⟨c',-,rfl⟩ := h
  refine ⟨rfl,fun _ _ => rfl,rfl,fun j d hj hd => ?_,fun j d hd => ?_,fun _ hm => hm,id⟩
  · rw [hp,Option.some.injEq,Prod.mk.injEq] at hd
    exact absurd hd.1.symm hj
  · simp only [Option.some.injEq,Prod.mk.injEq] at hd
    exact .inl ⟨hd.1.symm,ha⟩

theorem Own.rollback (h : w.rollback i = some w') : Own engine i w w' := by
  simp only [Store.rollback,Option.ite_none_right_eq_some,Option.some.injEq] at h
  obtain ⟨hin,rfl⟩ := h
  obtain ⟨c,hp⟩ := inTransaction_iff.mp hin
  refine ⟨rfl,fun _ _ => rfl,rfl,fun j d hj hd => ?_,fun j d hd => by simp at hd,fun _ hm => hm,id⟩
  rw [hp,Option.some.injEq,Prod.mk.injEq] at hd
  exact absurd hd.1.symm hj

theorem Own.abandon : Own engine i w (w.abandon i) := by
  unfold Store.abandon
  cases hr : w.rollback i with
  | none => exact .refl w
  | some w' => exact .rollback hr

theorem Own.begin (ha : (w.connection i).alive = true) (h : w.begin i = some w') : Own engine i w w' := by
  simp only [Store.begin,Option.ite_none_right_eq_some,Option.some.injEq,Option.isNone_iff_eq_none] at h
  obtain ⟨hp,rfl⟩ := h
  refine ⟨rfl,fun _ _ => rfl,rfl,fun j d hj hd => by simp [hp] at hd,fun j d hd => ?_,fun _ hm => hm,id⟩
  simp only [Option.some.injEq,Prod.mk.injEq] at hd
  exact .inl ⟨hd.1.symm,ha⟩

theorem Own.commit {c : Contents} (hp : w.pending = some (i,c)) (hc : c.Exact engine)
    (hgrows : ∀ m ∈ w.file.recorded, m ∈ c.recorded) (h : w.commit i = some w') : Own engine i w w' := by
  simp only [Store.commit,hp,if_true,Option.some.injEq] at h
  subst h
  refine ⟨rfl,fun _ _ => rfl,rfl,fun j d hj hd => ?_,fun j d hd => by simp at hd,hgrows,fun _ => hc⟩
  rw [hp,Option.some.injEq,Prod.mk.injEq] at hd
  exact absurd hd.1.symm hj

theorem Own.foreignKeys (on : Bool) : Own engine i w (w.foreignKeys i on) := by
  unfold Store.foreignKeys
  split
  · exact .refl w
  · exact .connection fun _ => rfl

/-- Whether the table of the ledger is there is no matter of what is recorded. -/
theorem Own.ledger (ha : (w.connection i).alive = true)
    (h : (w.write i fun c => some { c with ledger := true }) = some w') : Own engine i w w' := by
  by_cases hin : w.inTransaction i = true
  · exact .write ha hin h
  · unfold Store.write at h
    cases hp : w.pending with
    | some owned =>
      obtain ⟨j,c⟩ := owned
      have hj : j ≠ i := fun hj => hin (inTransaction_iff.mpr ⟨c,hj ▸ hp⟩)
      simp [hp,hj] at h
    | none =>
      simp only [hp,Option.map_some,Option.some.injEq] at h
      subst h
      exact ⟨rfl,fun _ _ => rfl,rfl,fun j d hj hd => by simp [hp] at hd,fun j d hd => by simp at hd,fun _ hm => hm,
        fun hx => ⟨hx.once,hx.effects,hx.checked⟩⟩

theorem Own.noted (sql : Sql) : Own engine i w (w.noted i sql) := by
  unfold Store.noted
  split
  · exact .connection fun _ => rfl
  · exact .refl w

/-- Whatever a licensed statement comes to, it is within what the connection may do. -/
theorem perform_own {sql : Sql} {outcome : Outcome} (hl : Licensed engine i sql w) (hk : Kept engine i sql outcome w) :
    Own engine i w (w.perform engine i sql outcome).2 := by
  unfold Store.perform
  split
  · next ha =>
    refine (Own.noted sql).trans ?_
    have ha' : ((w.noted i sql).connection i).alive = true := by
      rw [(show Own engine i w (w.noted i sql) from .noted sql).alive]
      exact ha
    cases outcome with
    | failed => exact .refl _
    | raised => exact .refl _
    | aborted => exact .abandon
    | done =>
      dsimp only
      split
      · next answered hrun =>
        cases sql with
        | journalMode => cases hrun; exact .refl _
        | busyTimeout => cases hrun; exact .refl _
        | synchronous => cases hrun; exact .refl _
        | foreignKeys on => cases hrun; exact .foreignKeys on
        | createLedger =>
          simp only [Store.run] at hrun
          split at hrun
          · cases hrun; exact .refl _
          · obtain ⟨w',hw,rfl⟩ := Option.map_eq_some_iff.mp hrun
            exact .ledger ha' hw
        | commitIfOpen =>
          have hin : (w.noted i .commitIfOpen).inTransaction i = false := hl ha
          simp only [Store.run,hin,Bool.false_eq_true,if_false] at hrun
          cases hrun
          exact .refl _
        | selectLedger =>
          cases hrun
          exact @Own.connection _ _ _ (fun c => { c with seen := _ }) fun _ => rfl
        | beginImmediate =>
          obtain ⟨w',hw,rfl⟩ := Option.map_eq_some_iff.mp hrun
          exact .begin ha' hw
        | statement text =>
          obtain ⟨w',hw,rfl⟩ := Option.map_eq_some_iff.mp hrun
          have hkind := (hk ha).1
          unfold Store.statement at hw
          cases hkd : engine.kind text with
          | ordinary =>
            rw [hkd] at hw
            exact .write ha' (hl ha) hw
          | _ => simp [hkd,Kind.isOrdinary] at hkind
        | foreignKeyCheck => cases hrun; exact .refl _
        | insertLedger m =>
          obtain ⟨w',hw,rfl⟩ := Option.map_eq_some_iff.mp hrun
          exact .write ha' (hl ha) hw
        | rollback =>
          obtain ⟨w',hw,rfl⟩ := Option.map_eq_some_iff.mp hrun
          exact .rollback hw
        | commit =>
          obtain ⟨w',hw,rfl⟩ := Option.map_eq_some_iff.mp hrun
          obtain ⟨c,hp,hc,hg⟩ := hl ha
          exact .commit hp hc hg hw
      · exact .refl _
  · exact .refl _

theorem Own.inv (h : Own engine i w w') (hI : w.Inv engine) : w'.Inv engine where
  faithful := h.faithful hI.faithful
  owner j c hp := by
    rcases h.owner j c hp with ⟨rfl,ha⟩ | hp
    · rw [h.alive]; exact ha
    · by_cases hj : j = i
      · rw [hj,h.alive,← hj]; exact hI.owner j c hp
      · rw [h.others j hj]; exact hI.owner j c hp
  opened j hj := by
    rw [h.opened] at hj
    by_cases hji : j = i
    · rw [hji,h.alive,← hji]; exact hI.opened j hj
    · rw [h.others j hji]; exact hI.opened j hj

theorem inTransaction_false_iff : w.inTransaction i = false ↔ ∀ c, w.pending ≠ some (i,c) := by
  rw [← Bool.not_eq_true,inTransaction_iff]
  exact ⟨fun h c hc => h ⟨c,hc⟩,fun h ⟨c,hc⟩ => h c hc⟩

theorem Own.rely (h : Own engine i w w') {j : ℕ} (hj : j ≠ i) : Others j w w' where
  connection := h.others j hj
  inside c hp := h.locked j c hj hp
  outside hout := by
    rw [inTransaction_false_iff] at hout ⊢
    intro c hp
    rcases h.owner j c hp with ⟨rfl,-⟩ | hp
    · exact hj rfl
    · exact hout c hp
  grows := h.grows

theorem Others.refl (w : Store) : Others i w w := ⟨rfl,fun _ h => ⟨h,rfl⟩,id,fun _ h => h⟩

theorem Others.trans {w'' : Store} (h : Others i w w') (h' : Others i w' w'') : Others i w w'' where
  connection := h'.connection.trans h.connection
  inside c hp := by
    obtain ⟨hp',hf⟩ := h.inside c hp
    obtain ⟨hp'',hf'⟩ := h'.inside c hp'
    exact ⟨hp'',hf'.trans hf⟩
  outside hout := h'.outside (h.outside hout)
  grows m hm := h'.grows m (h.grows m hm)

/-- What is true of a list of migrations and of those of them that an open applied, once it returned them. -/
structure Resumed (engine : Engine) (newly : List Migration) (c : Connection) (w : Store) : Prop where
  missing : ∃ migrations, loadMigrations c.files = .ok migrations ∧
    newly = migrations.filter fun m => m.version ∉ c.seen.map (·.version)
  recorded : ∀ migrations, loadMigrations c.files = .ok migrations →
    ∀ m ∈ migrations, ∃ r ∈ w.file.recorded, r.version = m.version ∧ r.checksum engine = m.checksum engine

/-- How `apply_migrations` leaves the connection it was given. -/
structure Settled (engine : Engine) (i : ℕ) (x : Except Failure (List Migration)) (w : Store) : Prop where
  outside : w.inTransaction i = false
  enforced : (w.connection i).foreignKeys = true
  resumed : ∀ newly, x = .ok newly → Resumed engine newly (w.connection i) w

variable (engine) in
def sharing : Contract (processes engine) where
  regime := careful engine
  Inv := Store.Inv engine
  Rely i w w' := (w'.connection i).alive = true → Others i w w'
  Licence := Licensed engine
  Post i x w := (w.connection i).alive = true → (w.connection i).began = true → Settled engine i x w

theorem abandon_pending {j : ℕ} {c : Contents} (h : (w.abandon i).pending = some (j,c)) :
    j ≠ i ∧ w.pending = some (j,c) := by
  unfold Store.abandon Store.rollback at h
  cases hin : w.inTransaction i with
  | true => simp [hin] at h
  | false =>
    simp only [hin,Bool.false_eq_true,if_false,Option.getD_none] at h
    refine ⟨?_,h⟩
    rintro rfl
    exact inTransaction_false_iff.mp hin c h

theorem enter_connection {files : List (Text × Text)} {j : ℕ} (hj : j ≠ w.opened) :
    (w.enter files).2.connection j = w.connection j := by
  simp [Store.enter,hj]

/-- A new process finds the store as it is. -/
theorem enter_inv {files : List (Text × Text)} (hI : w.Inv engine) : (w.enter files).2.Inv engine where
  faithful := hI.faithful
  owner j c hp := by
    by_cases hj : j = w.opened
    · simp [Store.enter,hj]
    · rw [enter_connection hj]
      exact hI.owner j c hp
  opened j hj := by
    have hlt : w.opened + 1 ≤ j := hj
    rw [enter_connection (by omega)]
    exact hI.opened j (by omega)

theorem enter_others {files : List (Text × Text)} {j : ℕ} (hj : j ≠ w.opened) : Others j w (w.enter files).2 :=
  ⟨enter_connection hj,fun _ h => ⟨h,rfl⟩,id,fun _ h => h⟩

theorem abandon_file : (w.abandon i).file = w.file := by
  unfold Store.abandon Store.rollback
  split <;> rfl

theorem abandon_connection : (w.abandon i).connection = w.connection := by
  unfold Store.abandon Store.rollback
  split <;> rfl

theorem abandon_opened : (w.abandon i).opened = w.opened := by
  unfold Store.abandon Store.rollback
  split <;> rfl

theorem die_connection {j : ℕ} (hj : j ≠ i) : (w.die i).connection j = w.connection j := by
  simp only [Store.die,Store.setConnection,Function.update_of_ne hj]
  rw [abandon_connection]

theorem die_alive : ((w.die i).connection i).alive = false := by simp [Store.die,Store.setConnection]

theorem die_inv (hI : w.Inv engine) : (w.die i).Inv engine where
  faithful := (abandon_file (i := i) (w := w)) ▸ hI.faithful
  owner j c hp := by
    obtain ⟨hj,hp⟩ := abandon_pending hp
    rw [die_connection hj]
    exact hI.owner j c hp
  opened j hj := by
    by_cases hji : j = i
    · exact hji ▸ die_alive
    · rw [die_connection hji]
      exact hI.opened j ((abandon_opened (i := i) (w := w)) ▸ hj)

/-- Who survives the death of a process is not touched by it. -/
theorem die_others {j : ℕ} (ha : ((w.die i).connection j).alive = true) : Others j w (w.die i) := by
  have hj : j ≠ i := by
    rintro rfl
    rw [die_alive] at ha
    cases ha
  refine ⟨die_connection hj,fun c hp => ⟨?_,abandon_file⟩,fun hout => ?_,fun m hm => ?_⟩
  · have hnot : w.inTransaction i = false := inTransaction_false_iff.mpr fun d hd => by
      rw [hp,Option.some.injEq,Prod.mk.injEq] at hd
      exact hj hd.1
    simp only [Store.die,Store.setConnection,Store.abandon,Store.rollback,hnot]
    exact hp
  · rw [inTransaction_false_iff] at hout ⊢
    exact fun c hp => hout c (abandon_pending hp).2
  · exact (abandon_file (i := i) (w := w)).symm ▸ hm

variable (engine) in
theorem sharing_lawful : (sharing engine).Lawful where
  refl _ w := fun _ => .refl w
  trans {i u v w} h h' := fun ha => by
    have hv : (v.connection i).alive = true := (h' ha).connection ▸ ha
    exact (h hv).trans (h' ha)
  initial h := ⟨h.1,fun i c hp => by simp [h.2.1] at hp,fun i _ => (h.2.2.2 i).1⟩
  step a hI hl hk := by
    have hown := perform_own hl hk
    exact ⟨hown.inv hI,fun j hj _ => hown.rely hj⟩
  enter hI h := by
    cases h
    exact ⟨enter_inv hI,fun j hj _ => enter_others hj⟩
  outer hI _ h := by
    cases h
    exact ⟨die_inv hI,fun j => die_others⟩
  crash hI _ := ⟨hI.faithful,fun _ _ h => by simp [Store.crash] at h,fun _ _ => rfl⟩

end MigrationRuns
end LocalPlane
