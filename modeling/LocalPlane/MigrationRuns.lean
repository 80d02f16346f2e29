import LocalPlane.MigrationContract

/-!
# Runs of migrations

However many processes open one store and wherever they fail or die, what is recorded is what
is in effect. A connection is left as it should be in every run in which no suspended
migration is refused its transaction, no COMMIT, ROLLBACK or pragma fails, nothing but an
error of sqlite3 is raised inside a transaction and no script moves the transaction itself.
-/

set_option linter.dupNamespace false

namespace LocalPlane
namespace MigrationRuns

open Interleaved Interleaved.Contract

variable {engine : Engine} {i : ℕ} {w w' : Store}

section Assertions

/-- A process that has died owes nothing. -/
def Living (i : ℕ) (P : Store → Prop) (w : Store) : Prop := (w.connection i).alive = true → P w

/-- What a transaction has added to the file it began with. -/
structure Added where
  effects : List Text
  recorded : List Migration

/-- The connection is as given and inside a transaction that added so much, or outside; what is done is recorded. -/
structure Where (engine : Engine) (i : ℕ) (c : Connection) (inside : Option Added) (done : List Migration) (w : Store) : Prop where
  connection : w.connection i = c
  pending : match inside with
    | none => w.inTransaction i = false
    | some added => w.pending = some (i,⟨w.file.ledger,w.file.recorded ++ added.recorded,w.file.effects ++ added.effects⟩)
  done : ∀ m ∈ done, m ∈ w.file.recorded
  seen : ∀ row ∈ c.seen, ∃ r ∈ w.file.recorded, r.row engine = row

variable {c : Connection} {inside : Option Added} {added : Added} {done : List Migration}

theorem Where.others (h : Where engine i c inside done w) (ho : Others i w w') : Where engine i c inside done w' where
  connection := ho.connection.trans h.connection
  pending := by
    cases inside with
    | none => exact ho.outside h.pending
    | some added =>
      obtain ⟨hp,hf⟩ := ho.inside _ h.pending
      show w'.pending = _
      rw [hp,hf]
  done m hm := ho.grows m (h.done m hm)
  seen row hrow := by
    obtain ⟨r,hr,hrow⟩ := h.seen row hrow
    exact ⟨r,ho.grows r hr,hrow⟩

/-- Inside its own transaction a process finds the file as it was. -/
theorem Where.file (h : Where engine i c (some added) done w) (ho : Others i w w') : w'.file = w.file :=
  (ho.inside _ h.pending).2

theorem Where.inTransaction (h : Where engine i c (some added) done w) : w.inTransaction i = true :=
  inTransaction_iff.mpr ⟨_,h.pending⟩

theorem Where.view (h : Where engine i c (some added) done w) :
    w.view i = ⟨w.file.ledger,w.file.recorded ++ added.recorded,w.file.effects ++ added.effects⟩ := by
  have hp := h.pending
  simp only at hp
  simp [Store.view,hp]

theorem abandon_outside (hp : w.inTransaction i = false) : w.abandon i = w := by simp [Store.abandon,Store.rollback,hp]

theorem view_outside (hp : w.inTransaction i = false) : w.view i = w.file := by
  unfold Store.view
  cases hpending : w.pending with
  | none => rfl
  | some owned =>
    obtain ⟨j,d⟩ := owned
    have hj : j ≠ i := fun hj => inTransaction_false_iff.mp hp d (hj ▸ hpending)
    simp [hj]

/-- What survives whatever others do. -/
def Lasting (i : ℕ) (P : Store → Prop) : Prop := ∀ {w w'}, Others i w w' → P w → P w'

theorem Where.lasting : Lasting i (Where engine i c inside done) := fun ho h => h.others ho

theorem Lasting.stable {P : Store → Prop} (h : Lasting i P) : (sharing engine).Stable i (Living i P) := by
  intro w w' hr hw ha
  have ho := hr ha
  exact h ho (hw (ho.connection ▸ ha))

end Assertions

section Statements

variable {P : Store → Prop} {α : Type}

/-- One statement: it is licensed where it is sent, and each way it can come out leaves what is claimed of it. -/
theorem Triple.execute {sql : Sql} {Q : Except Failure sql.Answer → Store → Prop} (hP : Lasting i P) (hQ : ∀ x, Lasting i (Q x))
    (hl : ∀ {w}, w.Inv engine → P w → (w.connection i).alive = true → Licensed engine i sql w)
    (h : ∀ {w outcome}, w.Inv engine → P w → (w.connection i).alive = true → Kept engine i sql outcome w →
      Q (w.perform engine i sql outcome).1 (w.perform engine i sql outcome).2) :
    (sharing engine).Triple i (Living i P) (MigrationRuns.execute sql) fun x => Living i (Q x) := by
  refine Triple.act (sharing_lawful engine) (Lasting.stable hP) (fun hI hw ha => hl hI (hw ha) ha ha) fun answer => ?_
  have hret : (sharing engine).Triple i (Living i (Q answer)) (.ret answer) fun x => Living i (Q x) :=
    Triple.ret (Lasting.stable (hQ answer)) fun _ hw => hw
  refine hret.conseq (fun {v} hI hv ha => ?_) fun _ _ _ h => h
  obtain ⟨w,outcome,hIw,hw,hk,hp⟩ := hv
  have hown : Own engine i w v := by
    have := perform_own (fun ha => hl hIw (hw ha) ha ha) hk
    rwa [show w.perform engine i sql outcome = (answer,v) from hp] at this
  have haw : (w.connection i).alive = true := hown.alive ▸ ha
  have hq := h hIw (hw haw) haw hk
  rwa [show w.perform engine i sql outcome = (answer,v) from hp] at hq

theorem Triple.throw {P : Store → Prop} {e : Failure} {Q : Except Failure α → Store → Prop} (hP : Lasting i P)
    (h : ∀ {w}, P w → Q (.error e) w) : (sharing engine).Triple i (Living i P) (.ret (.error e)) fun x => Living i (Q x) :=
  Triple.ret (Lasting.stable hP) fun _ hw ha => h (hw ha)

theorem Triple.pure {P : Store → Prop} {a : α} {Q : Except Failure α → Store → Prop} (hP : Lasting i P)
    (h : ∀ {w}, P w → Q (.ok a) w) : (sharing engine).Triple i (Living i P) (.ret (.ok a)) fun x => Living i (Q x) :=
  Triple.ret (Lasting.stable hP) fun _ hw ha => h (hw ha)

/-- What a process that lives can conclude, or need not. -/
theorem Triple.strengthen {P' : Store → Prop} {p : Script α} {Q : Except Failure α → Store → Prop}
    (h : (sharing engine).Triple i (Living i P) p fun x => Living i (Q x)) (hP : ∀ {w}, P' w → P w) :
    (sharing engine).Triple i (Living i P') p fun x => Living i (Q x) :=
  h.conseq (fun _ hw ha => hP (hw ha)) fun _ _ _ h => h

/-- Whatever is left of the program of a process that has died, it owes nothing. -/
theorem dead_ok {Q : Except Failure α → Store → Prop} (p : Script α) (ha : (w.connection i).alive = false) :
    (sharing engine).Ok i p (fun x => Living i (Q x)) w := by
  have hdead : ∀ {w w' : Store}, (w.connection i).alive = false → ((w'.connection i).alive = true → Others i w w') →
      (w'.connection i).alive = false := by
    intro w w' ha hr
    rw [← Bool.not_eq_true] at ha ⊢
    exact fun ha' => ha ((hr ha').connection ▸ ha')
  induction p generalizing w with
  | ret x =>
    intro w' hr hI ha'
    rw [hdead ha hr] at ha'
    cases ha'
  | act sql next ih =>
    intro w' hr hI
    have ha' := hdead ha hr
    refine ⟨fun h => absurd (ha'.symm.trans h) Bool.false_ne_true,fun outcome _ => ih _ ?_⟩
    show ((w'.perform engine i sql outcome).2.connection i).alive = false
    simp [Store.perform,ha']

/-- A fact that does not depend on the store is at hand in what follows. -/
theorem Triple.fact {φ : Prop} {p : Script α} {Q : Except Failure α → Store → Prop}
    (h : φ → (sharing engine).Triple i (Living i P) p fun x => Living i (Q x)) :
    (sharing engine).Triple i (Living i fun w => φ ∧ P w) p fun x => Living i (Q x) := by
  intro w hI hw
  cases ha : (w.connection i).alive with
  | true => exact h (hw ha).1 w hI fun ha => (hw ha).2
  | false => exact dead_ok p ha

end Statements

section Script

variable {c : Connection} {done : List Migration} {m : Migration}

/-- What is raised inside the transaction is an error the handler is for. -/
def Troubled (engine : Engine) (i : ℕ) (c : Connection) (done : List Migration) (e : Failure) (w : Store) : Prop :=
  e.caught = true ∧ ∃ inside, Where engine i c inside done w

theorem Troubled.lasting {e : Failure} : Lasting i (Troubled engine i c done e) :=
  fun ho ⟨he,inside,h⟩ => ⟨he,inside,h.others ho⟩

/-- How a part of a migration's body comes out: with so much added, or in trouble. -/
def Adds (engine : Engine) (i : ℕ) (c : Connection) (done : List Migration) (added : Added) {α : Type} :
    Except Failure α → Store → Prop
  | .ok _ => Where engine i c (some added) done
  | .error e => Troubled engine i c done e

theorem Adds.lasting {added : Added} {α : Type} (x : Except Failure α) : Lasting i (Adds engine i c done added x) := by
  cases x with
  | ok _ => exact Where.lasting
  | error e => exact Troubled.lasting

/-- A statement of sqlite3 that fails inside a transaction leaves it, or ends it. -/
theorem Where.troubled {added : Added} (h : Where engine i c (some added) done w) :
    Troubled engine i c done .sqlite w ∧ Troubled engine i c done .sqlite (w.abandon i) := by
  refine ⟨⟨rfl,_,h⟩,rfl,none,?_,?_,?_,?_⟩
  · rw [abandon_connection]; exact h.connection
  · exact inTransaction_false_iff.mpr fun d hd => (abandon_pending hd).1 rfl
  · rw [abandon_file]; exact h.done
  · rw [abandon_file]; exact h.seen

theorem triple_statement {added : Added} (text : Text) :
    (sharing engine).Triple i (Living i (Where engine i c (some added) done)) (execute (.statement text))
      fun x => Living i (Adds engine i c done { added with effects := added.effects ++ [text] } x) := by
  refine Triple.execute Where.lasting (fun x => Adds.lasting x) (fun _ h _ _ => h.inTransaction) fun {w outcome} hI h ha hk => ?_
  have htrouble := h.troubled
  obtain ⟨hkind,hraised⟩ := hk ha
  unfold Store.perform
  rw [if_pos ha]
  cases outcome with
  | raised => exact absurd rfl hraised
  | failed => exact htrouble.1
  | aborted => exact htrouble.2
  | done =>
    have hp := h.pending
    simp only at hp
    have hordinary : engine.kind text = .ordinary := by
      cases hkd : engine.kind text <;> simp_all [Kind.isOrdinary]
    simp only [Store.noted,Store.run,Store.statement,hordinary,Store.write,hp,if_true,Option.map_some,Store.addEffect]
    exact ⟨h.connection,by simp,h.done,h.seen⟩

/-- The statements take effect one after another, or there is trouble. -/
theorem triple_statements (texts : List Text) (added : Added) :
    (sharing engine).Triple i (Living i (Where engine i c (some added) done))
      (Program.forEach texts fun text => execute (.statement text))
      fun x => Living i (Adds engine i c done { added with effects := added.effects ++ texts } x) := by
  induction texts generalizing added with
  | nil => exact Triple.pure Where.lasting fun h => by simpa [Adds] using h
  | cons text texts ih =>
    refine Triple.bind (sharing_lawful engine) (triple_statement text) (fun _ => ?_) fun e => ?_
    · have hrest := ih { added with effects := added.effects ++ [text] }
      simp only [List.append_assoc,List.singleton_append] at hrest
      exact hrest
    · exact Triple.throw Troubled.lasting id

/-- No dangling reference is left where the migration suspended foreign keys. -/
def Sound (engine : Engine) (m : Migration) (added : Added) (w : Store) : Prop :=
  m.suspendsForeignKeys = true → engine.violations (w.file.effects ++ added.effects) = 0

def Checks (engine : Engine) (i : ℕ) (c : Connection) (done : List Migration) (m : Migration) (added : Added) {α : Type} :
    Except Failure α → Store → Prop
  | .ok _ => fun w => Where engine i c (some added) done w ∧ Sound engine m added w
  | .error e => Troubled engine i c done e

theorem Where.sound_lasting {added : Added} :
    Lasting i fun w => Where engine i c (some added) done w ∧ Sound engine m added w :=
  fun ho h => ⟨h.1.others ho,fun hs => by rw [h.1.file ho]; exact h.2 hs⟩

theorem Checks.lasting {added : Added} {α : Type} (x : Except Failure α) : Lasting i (Checks engine i c done m added x) := by
  cases x with
  | ok _ => exact Where.sound_lasting
  | error e => exact Troubled.lasting

theorem triple_foreignKeyCheck {added : Added} :
    (sharing engine).Triple i (Living i (Where engine i c (some added) done)) (execute .foreignKeyCheck) fun x => Living i
      (match x with
        | .ok violations => fun w => Where engine i c (some added) done w ∧
          violations = engine.violations (w.file.effects ++ added.effects)
        | .error e => Troubled engine i c done e) := by
  refine Triple.execute Where.lasting (fun x => ?_) (fun _ _ _ _ => trivial) fun {w outcome} hI h ha hk => ?_
  · cases x with
    | ok violations => exact fun ho h => ⟨h.1.others ho,by rw [h.1.file ho]; exact h.2⟩
    | error e => exact Troubled.lasting
  · have htrouble := h.troubled
    unfold Store.perform
    rw [if_pos ha]
    cases outcome with
    | raised => exact absurd rfl (hk ha)
    | failed => exact htrouble.1
    | aborted => exact htrouble.2
    | done =>
      have hv : w.view i = ⟨_,_,_⟩ := h.view
      simp only [Store.noted,Store.run,hv]
      exact ⟨h,trivial⟩

/-- The migration is in effect and recorded in the open transaction, for the first time. -/
def Recorded (engine : Engine) (i : ℕ) (c : Connection) (done : List Migration) (m : Migration) (added : Added) :
    Except Failure Unit → Store → Prop
  | .ok _ => fun w => Where engine i c (some { added with recorded := added.recorded ++ [m] }) done w ∧
      Sound engine m added w ∧ m.version ∉ (w.file.recorded ++ added.recorded).map (·.version)
  | .error e => Troubled engine i c done e

theorem Recorded.lasting {added : Added} (x : Except Failure Unit) : Lasting i (Recorded engine i c done m added x) := by
  cases x with
  | ok _ =>
    rintro w w' ho ⟨h,hs,hm⟩
    have hf := h.file ho
    exact ⟨h.others ho,fun h => by rw [hf]; exact hs h,by rw [hf]; exact hm⟩
  | error e => exact Troubled.lasting

theorem triple_insertLedger {added : Added} :
    (sharing engine).Triple i (Living i fun w => Where engine i c (some added) done w ∧ Sound engine m added w)
      (execute (.insertLedger m)) fun x => Living i (Recorded engine i c done m added x) := by
  refine Triple.execute Where.sound_lasting (fun x => Recorded.lasting x) (fun _ h _ _ => h.1.inTransaction)
    fun {w outcome} hI h ha hk => ?_
  have htrouble := h.1.troubled
  unfold Store.perform
  rw [if_pos ha]
  cases outcome with
  | raised => exact absurd rfl (hk ha)
  | failed => exact htrouble.1
  | aborted => exact htrouble.2
  | done =>
    have hp := h.1.pending
    simp only at hp
    by_cases hm : m.version ∈ (w.file.recorded ++ added.recorded).map (·.version)
    · simp only [Store.noted,Store.run,Store.write,hp,if_true,Store.insert,hm,Option.map_none]
      exact htrouble.1
    · simp only [Store.noted,Store.run,Store.write,hp,if_true,Store.insert,hm,if_false,Option.map_some]
      exact ⟨⟨h.1.connection,by simp,h.1.done,h.1.seen⟩,h.2,hm⟩

/-- What the body of a migration adds to the file. -/
def Migration.added (engine : Engine) (m : Migration) : Added := ⟨m.statements engine,[]⟩

theorem triple_body :
    (sharing engine).Triple i (Living i (Where engine i c (some ⟨[],[]⟩) done)) (migrationBody engine m)
      fun x => Living i (Recorded engine i c done m (m.added engine) x) := by
  unfold migrationBody
  split
  · next e he =>
    refine Triple.throw Where.lasting fun h => ⟨?_,_,h⟩
    unfold splitStatements at he
    dsimp only at he
    split at he
    · cases he
    · cases he; rfl
  · next statements hs =>
    have hstatements : m.statements engine = statements := by simp [Migration.statements,hs,Except.toOption]
    have herror : ∀ {e : Failure}, (sharing engine).Triple i (Living i (Troubled engine i c done e)) (.ret (.error e))
        fun x => Living i (Recorded engine i c done m (m.added engine) x) := Triple.throw Troubled.lasting id
    have hadded : (⟨[] ++ statements,[]⟩ : Added) = m.added engine := by simp [Migration.added,hstatements]
    have hall : (sharing engine).Triple i (Living i (Where engine i c (some ⟨[],[]⟩) done))
        (Program.forEach statements fun text => execute (.statement text))
        fun x => Living i (Adds engine i c done (m.added engine) x) := hadded ▸ triple_statements statements ⟨[],[]⟩
    refine Triple.bind (sharing_lawful engine) hall (fun _ => ?_) fun e => herror
    dsimp only
    split
    · next hsuspends =>
      refine Triple.bind (sharing_lawful engine) triple_foreignKeyCheck (fun violations => ?_) fun e => herror
      by_cases hv : violations ≠ 0
      · rw [if_pos hv]
        refine Triple.throw (P := fun w => Where engine i c (some (m.added engine)) done w ∧
          violations = engine.violations (w.file.effects ++ (m.added engine).effects)) (fun ho h => ⟨h.1.others ho,?_⟩)
          fun h => ⟨rfl,_,h.1⟩
        rw [h.1.file ho]
        exact h.2
      · rw [if_neg hv]
        refine Triple.strengthen triple_insertLedger fun {w} h => ⟨h.1,fun _ => ?_⟩
        rw [← h.2]
        exact not_not.mp hv
    · next hsuspends => exact Triple.strengthen triple_insertLedger fun h => ⟨h,fun hs => absurd hs hsuspends⟩

/-- What is recorded in the open transaction keeps the file exact when it is committed. -/
theorem Contents.Exact.commit (h : w.file.Exact engine) (hs : Sound engine m (m.added engine) w)
    (hm : m.version ∉ w.file.recorded.map (·.version)) (ledger : Bool) :
    (⟨ledger,w.file.recorded ++ [m],w.file.effects ++ (m.added engine).effects⟩ : Contents).Exact engine where
  once := by
    rw [List.map_append,List.nodup_append]
    refine ⟨h.once,by simp,fun v hv v' hv' => ?_⟩
    simp only [List.map_cons,List.map_nil,List.mem_singleton] at hv'
    rintro rfl
    exact hm (hv' ▸ hv)
  effects := by simp [h.effects,Migration.added]
  checked before m' after heq hsuspends := by
    rcases List.eq_nil_or_concat after with rfl | ⟨after,last,rfl⟩
    · obtain ⟨rfl,hlast⟩ := List.append_inj' heq rfl
      obtain rfl : m = m' := by simpa using hlast
      have := hs hsuspends
      rw [h.effects] at this
      simpa [Migration.added] using this
    · rw [List.concat_eq_append,← List.cons_append,← List.append_assoc] at heq
      exact h.checked before m' after (List.append_inj' heq rfl).1 hsuspends

theorem triple_foreignKeys (on : Bool) :
    (sharing engine).Triple i (Living i (Where engine i c none done)) (execute (.foreignKeys on)) fun x => Living i
      (match x with
        | .ok _ => Where engine i { c with foreignKeys := on } none done
        | .error _ => fun w => (on = true → c.began = false) ∧ Where engine i c none done w) := by
  refine Triple.execute Where.lasting (fun x => ?_) (fun _ _ _ _ => trivial) fun {w outcome} hI h ha hk => ?_
  · cases x with
    | ok _ => exact Where.lasting
    | error e => exact fun ho h => ⟨h.1,h.2.others ho⟩
  · have hoff : outcome ≠ .done → on = true → c.began = false := fun hne hon => by
      rw [← Bool.not_eq_true]
      exact fun hc => hne (hk ha hon (by rw [h.connection]; exact hc))
    unfold Store.perform
    rw [if_pos ha]
    cases outcome with
    | raised => exact ⟨hoff (by simp),h⟩
    | failed => exact ⟨hoff (by simp),h⟩
    | aborted =>
      have hp : w.inTransaction i = false := h.pending
      show (on = true → c.began = false) ∧ Where engine i c none done (w.abandon i)
      rw [abandon_outside hp]
      exact ⟨hoff (by simp),h⟩
    | done =>
      have hp : w.inTransaction i = false := h.pending
      simp only [Store.noted,Store.run,Store.foreignKeys,hp]
      exact ⟨by simp [Store.setConnection,h.connection],hp,h.done,h.seen⟩

theorem triple_beginImmediate :
    (sharing engine).Triple i (Living i (Where engine i c none done)) (execute .beginImmediate) fun x => Living i
      (match x with
        | .ok _ => Where engine i c (some ⟨[],[]⟩) done
        | .error _ => fun w => c.foreignKeys = true ∧ Where engine i c none done w) := by
  refine Triple.execute Where.lasting (fun x => ?_) (fun _ _ _ _ => trivial) fun {w outcome} hI h ha hk => ?_
  · cases x with
    | ok _ => exact Where.lasting
    | error e => exact fun ho h => ⟨h.1,h.2.others ho⟩
  · have hfree : c.foreignKeys = false → outcome = .done ∧ w.pending = none := fun hc =>
      hk ha (by rw [h.connection]; exact hc)
    have hon : ¬(outcome = .done ∧ w.pending = none) → c.foreignKeys = true := fun hne => by
      rw [← Bool.not_eq_false]
      exact fun hc => hne (hfree hc)
    have hp : w.inTransaction i = false := h.pending
    have habandon := abandon_outside hp
    unfold Store.perform
    rw [if_pos ha]
    cases outcome with
    | raised => exact ⟨hon (by simp),h⟩
    | failed => exact ⟨hon (by simp),h⟩
    | aborted =>
      show c.foreignKeys = true ∧ Where engine i c none done (w.abandon i)
      rw [habandon]
      exact ⟨hon (by simp),h⟩
    | done =>
      cases hpending : w.pending with
      | none =>
        simp only [Store.noted,Store.run,Store.begin,hpending,Option.isNone_none,if_true,Option.map_some]
        exact ⟨h.connection,by simp,h.done,h.seen⟩
      | some owned =>
        simp only [Store.noted,Store.run,Store.begin,hpending,Option.isNone_some,Bool.false_eq_true,if_false,Option.map_none]
        exact ⟨hon (by simp [hpending]),h⟩

theorem triple_rollback {e : Failure} :
    (sharing engine).Triple i (Living i (Troubled engine i c done e)) (execute .rollback) fun x => Living i
      (match x with
        | .ok _ => Where engine i c none done
        | .error _ => fun _ => False) := by
  refine Triple.execute Troubled.lasting (fun x => ?_) (fun _ _ _ _ => trivial) fun {w outcome} hI h ha hk => ?_
  · cases x with
    | ok _ => exact Where.lasting
    | error e => exact fun _ h => h
  · obtain ⟨rfl,hin⟩ := hk ha
    obtain ⟨-,inside,h⟩ := h
    unfold Store.perform
    rw [if_pos ha]
    simp only [Store.noted,Store.run,Store.rollback,hin,if_true,Option.map_some]
    exact ⟨h.connection,by simp [Store.inTransaction],h.done,h.seen⟩

theorem triple_commit :
    (sharing engine).Triple i (Living i (Recorded engine i c done m (m.added engine) (.ok ()))) (execute .commit) fun x => Living i
      (match x with
        | .ok _ => Where engine i c none (done ++ [m])
        | .error _ => fun _ => False) := by
  refine Triple.execute (Recorded.lasting _) (fun x => ?_) (fun {w} hI h ha _ => ?_) fun {w outcome} hI h ha hk => ?_
  · cases x with
    | ok _ => exact Where.lasting
    | error e => exact fun _ h => h
  · obtain ⟨h,hs,hm⟩ := h
    refine ⟨_,h.pending,?_,fun r hr => by simp [hr]⟩
    exact Contents.Exact.commit hI.faithful hs (by simpa [Migration.added] using hm) w.file.ledger
  · obtain rfl := hk ha
    obtain ⟨h,-,-⟩ := h
    have hp := h.pending
    simp only [Migration.added,List.nil_append] at hp
    unfold Store.perform
    rw [if_pos ha]
    simp only [Store.noted,Store.run,Store.commit,hp,if_true,Option.map_some]
    refine ⟨h.connection,by simp [Store.inTransaction],fun r hr => ?_,fun row hrow => ?_⟩
    · rcases List.mem_append.mp hr with hr | hr
      · exact List.mem_append_left _ (h.done r hr)
      · exact List.mem_append_right _ hr
    · obtain ⟨r,hr,hrow⟩ := h.seen row hrow
      exact ⟨r,List.mem_append_left _ hr,hrow⟩

/-- How a migration ends: in effect, or with nothing of it left; foreign keys are enforced again. -/
def Applied (engine : Engine) (i : ℕ) (c : Connection) (done : List Migration) (m : Migration) : Except Failure Unit → Store → Prop
  | .ok _ => Where engine i { c with foreignKeys := true } none (done ++ [m])
  | .error _ => Where engine i { c with foreignKeys := true } none done

theorem Applied.lasting (x : Except Failure Unit) : Lasting i (Applied engine i c done m x) := by
  cases x <;> exact Where.lasting

theorem foreignKeys_eq {on : Bool} (h : c.foreignKeys = on) : { c with foreignKeys := on } = c := by
  subst h
  rfl

/-- The connection of a migration that is under way enforces foreign keys unless it suspended them. -/
def Connection.suspendedFor (c : Connection) (m : Migration) (on : Bool) : Connection :=
  { c with foreignKeys := on || !m.suspendsForeignKeys }

theorem triple_enforce (on : Bool) (hbegan : c.began = true) (hfk : c.foreignKeys = true ∨ c.foreignKeys = !m.suspendsForeignKeys) :
    (sharing engine).Triple i (Living i (Where engine i c none done)) (enforce m on) fun x => Living i
      (match x with
        | .ok _ => Where engine i (c.suspendedFor m on) none done
        | .error _ => fun w => on = false ∧ Where engine i c none done w) := by
  unfold enforce
  by_cases hs : m.suspendsForeignKeys = true
  · rw [if_pos hs]
    refine (triple_foreignKeys on).conseq (fun _ h => h) fun x w _ h => ?_
    cases x with
    | ok _ => simpa [Connection.suspendedFor,hs] using h
    | error e =>
      refine fun ha => ⟨?_,(h ha).2⟩
      rw [← Bool.not_eq_true]
      exact fun hon => absurd (hbegan.symm.trans ((h ha).1 hon)) (by simp)
  · rw [if_neg hs]
    have hc : c.suspendedFor m on = c := foreignKeys_eq (by rcases hfk with h | h <;> simp [h,hs])
    exact Triple.pure Where.lasting fun h => hc.symm ▸ h

/-- The handler puts the connection back, and nothing of the migration is in effect. -/
theorem triple_failed {e : Failure} (hbegan : c.began = true) (hfk : c.foreignKeys = !m.suspendsForeignKeys) :
    (sharing engine).Triple i (Living i (Troubled engine i c done e)) (migrationFailed m e)
      fun x => Living i
        (match x with
          | .ok _ => fun _ => False
          | .error _ => Where engine i { c with foreignKeys := true } none done) := by
  unfold migrationFailed
  by_cases he : e.caught = true
  · rw [if_pos he]
    refine Triple.bind (sharing_lawful engine) triple_rollback (fun _ => ?_) fun e => Triple.throw (fun _ h => h) fun h => h.elim
    refine Triple.bind (sharing_lawful engine) (triple_enforce true hbegan (.inr hfk)) (fun _ => ?_) fun e => ?_
    · exact Triple.throw Where.lasting id
    · exact Triple.throw (fun ho h => ⟨h.1,h.2.others ho⟩) fun h => absurd h.1 (by simp)
  · rw [if_neg he]
    exact Triple.throw Troubled.lasting fun h => absurd h.1 he

theorem triple_transaction (hbegan : c.began = true) (hfk : c.foreignKeys = !m.suspendsForeignKeys) :
    (sharing engine).Triple i (Living i (Where engine i c none done)) (migrationTransaction engine m)
      fun x => Living i (Applied engine i c done m x) := by
  have hc : c.suspendedFor m true = { c with foreignKeys := true } := rfl
  unfold migrationTransaction
  refine Triple.bind (sharing_lawful engine) triple_beginImmediate (fun _ => ?_) fun e => ?_
  · have hbody : (sharing engine).Triple i (Living i (Where engine i c (some ⟨[],[]⟩) done))
        (tryCatch (migrationBody engine m) (migrationFailed m)) fun x => Living i
          (match x with
            | .ok _ => Recorded engine i c done m (m.added engine) (.ok ())
            | .error _ => Where engine i { c with foreignKeys := true } none done) :=
      Triple.tryCatch (sharing_lawful engine) triple_body (fun _ => Triple.pure (Recorded.lasting _) id)
        fun e => (triple_failed hbegan hfk).conseq (fun _ h => h) fun x w _ h => by
          cases x with
          | ok _ => exact fun ha => (h ha).elim
          | error e => exact h
    refine Triple.bind (sharing_lawful engine) hbody (fun _ => ?_) fun e => Triple.throw Where.lasting id
    refine Triple.bind (sharing_lawful engine) triple_commit (fun _ => ?_) fun e => Triple.throw (fun _ h => h) fun h => h.elim
    refine (triple_enforce true hbegan (.inr hfk)).conseq (fun _ h => h) fun x w _ h => ?_
    cases x with
    | ok _ => exact h
    | error e => exact fun ha => absurd (h ha).1 (by simp)
  · refine Triple.throw (fun ho h => ⟨h.1,h.2.others ho⟩) fun h => ?_
    simpa only [Applied,foreignKeys_eq h.1] using h.2

theorem triple_applyMigration (hbegan : c.began = true) (hfk : c.foreignKeys = true) :
    (sharing engine).Triple i (Living i (Where engine i c none done)) (applyMigration engine m)
      fun x => Living i (Applied engine i c done m x) := by
  unfold applyMigration
  refine Triple.bind (sharing_lawful engine) (triple_enforce false hbegan (.inl hfk)) (fun _ => ?_) fun e => ?_
  · exact triple_transaction hbegan rfl
  · refine Triple.throw (fun ho h => ⟨h.1,h.2.others ho⟩) fun h => ?_
    simpa only [Applied,foreignKeys_eq hfk] using h.2

/-- What an open has made of the migrations it was given so far: those it had not read are applied, and the
others were recorded as they are. -/
structure Passed (engine : Engine) (seen : List LedgerRow) (migrations newly : List Migration) : Prop where
  missing : newly = migrations.filter fun m => m.version ∉ seen.map (·.version)
  known : ∀ m ∈ migrations, m.version ∈ seen.map (·.version) →
    ∃ row ∈ seen, row.version = m.version ∧ row.checksum = m.checksum engine

theorem Passed.knows {seen : List LedgerRow} {passed newly : List Migration} {row : LedgerRow} (hp : Passed engine seen passed newly)
    (hrow : row ∈ seen) (hv : row.version = m.version) (hsum : row.checksum = m.checksum engine) :
    Passed engine seen (passed ++ [m]) newly where
  missing := by
    have hin : m.version ∈ seen.map (·.version) := List.mem_map.mpr ⟨row,hrow,hv⟩
    rw [List.filter_append,List.filter_cons_of_neg (by simpa only [decide_eq_true_eq,not_not] using hin),hp.missing]
    simp
  known m' hm' hv' := by
    rcases List.mem_append.mp hm' with hm' | hm'
    · exact hp.known m' hm' hv'
    · obtain rfl := List.mem_singleton.mp hm'
      exact ⟨row,hrow,hv,hsum⟩

theorem Passed.misses {seen : List LedgerRow} {passed newly : List Migration} (hp : Passed engine seen passed newly)
    (hout : m.version ∉ seen.map (·.version)) : Passed engine seen (passed ++ [m]) (newly ++ [m]) where
  missing := by
    rw [List.filter_append,List.filter_cons_of_pos (by simpa only [decide_eq_true_eq] using hout),hp.missing]
    simp
  known m' hm' hv' := by
    rcases List.mem_append.mp hm' with hm' | hm'
    · exact hp.known m' hm' hv'
    · obtain rfl := List.mem_singleton.mp hm'
      exact absurd hv' hout

theorem Where.mono {inside : Option Added} {done' : List Migration} (h : Where engine i c inside done w)
    (hd : ∀ m ∈ done', m ∈ done) : Where engine i c inside done' w :=
  ⟨h.connection,h.pending,fun m hm => h.done m (hd m hm),h.seen⟩

/-- How the loop over the migrations ends. -/
def Opened (engine : Engine) (i : ℕ) (c : Connection) (migrations : List Migration) : Except Failure (List Migration) → Store → Prop
  | .ok newly => fun w => Passed engine c.seen migrations newly ∧ Where engine i c none newly w
  | .error _ => Where engine i c none []

theorem Opened.lasting {migrations : List Migration} (x : Except Failure (List Migration)) :
    Lasting i (Opened engine i c migrations x) := by
  cases x with
  | ok newly => exact fun ho h => ⟨h.1,h.2.others ho⟩
  | error e => exact Where.lasting

theorem triple_applyMissing (hbegan : c.began = true) (hfk : c.foreignKeys = true) (rest passed newly : List Migration)
    (hp : Passed engine c.seen passed newly) :
    (sharing engine).Triple i (Living i (Where engine i c none newly)) (applyMissing engine c.seen rest newly)
      fun x => Living i (Opened engine i c (passed ++ rest) x) := by
  induction rest generalizing passed newly with
  | nil => exact Triple.pure Where.lasting fun h => ⟨by rwa [List.append_nil],h⟩
  | cons m rest ih =>
    have hpassed : passed ++ m :: rest = (passed ++ [m]) ++ rest := by simp
    rw [applyMissing,hpassed]
    split
    · next existing hfind =>
      have hmem : existing ∈ c.seen := List.mem_of_find?_eq_some hfind
      have hversion : existing.version = m.version := by simpa using List.find?_some hfind
      by_cases hsum : existing.checksum ≠ m.checksum engine
      · rw [if_pos hsum]
        exact Triple.throw Where.lasting fun h => h.mono (by simp)
      · rw [if_neg hsum]
        exact ih (passed ++ [m]) newly (hp.knows hmem hversion (not_not.mp hsum))
    · next hfind =>
      have hout : m.version ∉ c.seen.map (·.version) := by
        intro hv
        obtain ⟨row,hrow,hv⟩ := List.mem_map.mp hv
        exact absurd hv (by simpa using List.find?_eq_none.mp hfind row hrow)
      refine Triple.bind (sharing_lawful engine) (triple_applyMigration hbegan hfk) (fun _ => ?_) fun e => ?_
      · refine Triple.strengthen (ih (passed ++ [m]) (newly ++ [m]) (hp.misses hout)) fun h => ?_
        simpa only [Applied,foreignKeys_eq hfk] using h
      · refine Triple.throw (Applied.lasting (.error e)) fun h => ?_
        have h' : Where engine i { c with foreignKeys := true } none newly _ := h
        rw [foreignKeys_eq hfk] at h'
        exact h'.mono (by simp)

end Script

section Opening

variable {c : Connection}

/-- A statement that leaves the store as it is, however it comes out. -/
theorem triple_quiet {sql : Sql} (hnoted : ∀ w : Store, w.noted i sql = w)
    (hl : ∀ w : Store, w.inTransaction i = false → Licensed engine i sql w)
    (hrun : ∀ w : Store, w.inTransaction i = false → ∃ a, w.run engine i sql = some (a,w)) :
    (sharing engine).Triple i (Living i (Where engine i c none [])) (execute sql) fun _ => Living i (Where engine i c none []) := by
  refine Triple.execute Where.lasting (fun _ => Where.lasting) (fun _ h _ => hl _ h.pending) fun {w outcome} hI h ha hk => ?_
  have hp : w.inTransaction i = false := h.pending
  have habandon := abandon_outside hp
  obtain ⟨a,hrun⟩ := hrun w hp
  unfold Store.perform
  rw [if_pos ha,hnoted]
  cases outcome with
  | raised => exact h
  | failed => exact h
  | aborted =>
    show Where engine i c none [] (w.abandon i)
    rwa [habandon]
  | done => simpa only [hrun] using h

/-- From the first statement of `apply_migrations` on, the connection is one it has begun on. -/
theorem triple_createLedger :
    (sharing engine).Triple i (Living i (Where engine i c none [])) (execute .createLedger)
      fun _ => Living i (Where engine i { c with began := true } none []) := by
  refine Triple.execute Where.lasting (fun _ => Where.lasting) (fun _ _ _ _ => trivial) fun {w outcome} hI h ha hk => ?_
  have hnoted : Where engine i { c with began := true } none [] (w.noted i .createLedger) :=
    ⟨by simp [Store.noted,Store.setConnection,h.connection],h.pending,h.done,h.seen⟩
  have hp : (w.noted i .createLedger).inTransaction i = false := h.pending
  unfold Store.perform
  rw [if_pos ha]
  cases outcome with
  | raised => exact hnoted
  | failed => exact hnoted
  | aborted =>
    show Where engine i _ none [] ((w.noted i .createLedger).abandon i)
    rwa [abandon_outside hp]
  | done =>
    dsimp only
    split
    · next answered hrun =>
      simp only [Store.run] at hrun
      split at hrun
      · cases hrun
        exact hnoted
      · obtain ⟨w',hw,rfl⟩ := Option.map_eq_some_iff.mp hrun
        unfold Store.write at hw
        cases hpending : (w.noted i .createLedger).pending with
        | none =>
          simp only [hpending,Option.map_some,Option.some.injEq] at hw
          subst hw
          exact ⟨hnoted.connection,by simp [Store.inTransaction],hnoted.done,hnoted.seen⟩
        | some owned =>
          obtain ⟨j,d⟩ := owned
          have hj : j ≠ i := fun hj => inTransaction_false_iff.mp hp d (hj ▸ hpending)
          simp [hpending,hj] at hw
    · exact hnoted

/-- What is read is what is recorded. -/
theorem triple_selectLedger :
    (sharing engine).Triple i (Living i (Where engine i c none [])) (execute .selectLedger) fun x => Living i
      (match x with
        | .ok rows => Where engine i { c with seen := rows } none []
        | .error _ => Where engine i c none []) := by
  refine Triple.execute Where.lasting (fun x => ?_) (fun _ _ _ _ => trivial) fun {w outcome} hI h ha hk => ?_
  · cases x <;> exact Where.lasting
  · have hp : w.inTransaction i = false := h.pending
    have habandon := abandon_outside hp
    unfold Store.perform
    rw [if_pos ha]
    cases outcome with
    | raised => exact h
    | failed => exact h
    | aborted =>
      show Where engine i c none [] (w.abandon i)
      rwa [habandon]
    | done =>
      simp only [Store.noted,Store.run,view_outside hp]
      refine ⟨by simp [Store.setConnection,h.connection],h.pending,h.done,fun row hrow => ?_⟩
      obtain ⟨r,hr,hrow⟩ := List.mem_map.mp hrow
      exact ⟨r,hr,hrow⟩

/-- How the program that opens the store ends. -/
def Ended (engine : Engine) (i : ℕ) (x : Except Failure (List Migration)) (w : Store) : Prop :=
  ∃ c : Connection, (c.began = true → c.foreignKeys = true) ∧ Where engine i c none [] w ∧ ∀ newly, x = .ok newly →
    ∃ migrations, loadMigrations c.files = .ok migrations ∧ Passed engine c.seen migrations newly ∧
      ∀ m ∈ newly, m ∈ w.file.recorded

theorem Ended.lasting (x : Except Failure (List Migration)) : Lasting i (Ended engine i x) := by
  rintro w w' ho ⟨c,hc,h,hx⟩
  refine ⟨c,hc,h.others ho,fun newly hnewly => ?_⟩
  obtain ⟨migrations,hload,hp,hdone⟩ := hx newly hnewly
  exact ⟨migrations,hload,hp,fun m hm => ho.grows m (hdone m hm)⟩

theorem triple_raises {e : Failure} (hc : c.began = true → c.foreignKeys = true) :
    (sharing engine).Triple i (Living i (Where engine i c none [])) (.ret (.error e)) fun x => Living i (Ended engine i x) :=
  Triple.throw Where.lasting fun h => ⟨c,hc,h,fun _ h => by cases h⟩

theorem triple_applyMigrations (hfk : c.foreignKeys = true) :
    (sharing engine).Triple i (Living i (Where engine i c none [])) (applyMigrations engine c.files)
      fun x => Living i (Ended engine i x) := by
  unfold applyMigrations
  refine Triple.bind (sharing_lawful engine) triple_createLedger (fun _ => ?_) fun e => triple_raises fun _ => hfk
  have hcommit : (sharing engine).Triple i (Living i (Where engine i { c with began := true } none [])) (execute .commitIfOpen)
      fun _ => Living i (Where engine i { c with began := true } none []) :=
    triple_quiet (fun _ => rfl) (fun _ hp _ => hp) fun w hp => ⟨(),by simp [Store.run,hp]⟩
  refine Triple.bind (sharing_lawful engine) hcommit (fun _ => ?_) fun e => triple_raises fun _ => hfk
  refine Triple.bind (sharing_lawful engine) triple_selectLedger (fun rows => ?_) fun e => triple_raises fun _ => hfk
  dsimp only
  split
  · exact triple_raises fun _ => hfk
  · next migrations hload =>
    by_cases horphaned : (rows.map (·.version)).filter (· ∉ migrations.map (·.version)) ≠ []
    · rw [if_pos horphaned]
      exact triple_raises fun _ => hfk
    · rw [if_neg horphaned]
      have hloop := @triple_applyMissing engine i { c with began := true, seen := rows } rfl hfk migrations [] []
        ⟨by simp,fun _ h => by cases h⟩
      refine hloop.conseq (fun _ h => h) fun x w _ h ha => ?_
      have hx := h ha
      refine ⟨{ c with began := true, seen := rows },fun _ => hfk,?_,fun newly hnewly => ?_⟩
      · cases x with
        | ok newly => exact hx.2.mono fun _ h => by cases h
        | error e => exact hx
      · subst hnewly
        exact ⟨migrations,hload,hx.1,hx.2.done⟩

theorem triple_openDatabase (hbegan : c.began = false) :
    (sharing engine).Triple i (Living i (Where engine i c none [])) (openDatabase engine c.files)
      fun x => Living i (Ended engine i x) := by
  have hquiet : ∀ {c : Connection} {sql : Sql}, (∀ w : Store, w.noted i sql = w) →
      (∀ w : Store, w.inTransaction i = false → Licensed engine i sql w) →
      (∀ w : Store, ∃ a, w.run engine i sql = some (a,w)) →
      (sharing engine).Triple i (Living i (Where engine i c none [])) (execute sql) fun _ => Living i (Where engine i c none []) :=
    fun hnoted hl hrun => triple_quiet hnoted hl fun w _ => hrun w
  have hoff : c.began = true → c.foreignKeys = true := fun h => absurd (hbegan.symm.trans h) (by simp)
  unfold openDatabase
  refine Triple.bind (sharing_lawful engine) (hquiet (fun _ => rfl) (fun _ _ _ => trivial) fun w => ⟨(),rfl⟩) (fun _ => ?_)
    fun e => triple_raises hoff
  refine Triple.bind (sharing_lawful engine) (triple_foreignKeys true) (fun _ => ?_) fun e =>
    Triple.strengthen (triple_raises hoff) fun h => h.2
  have hon : ({ c with foreignKeys := true } : Connection).began = true → ({ c with foreignKeys := true } : Connection).foreignKeys = true :=
    fun _ => rfl
  refine Triple.bind (sharing_lawful engine) (hquiet (fun _ => rfl) (fun _ _ _ => trivial) fun w => ⟨(),rfl⟩) (fun _ => ?_)
    fun e => triple_raises hon
  refine Triple.bind (sharing_lawful engine) (hquiet (fun _ => rfl) (fun _ _ _ => trivial) fun w => ⟨(),rfl⟩) (fun _ => ?_)
    fun e => triple_raises hon
  exact triple_applyMigrations (c := { c with foreignKeys := true }) rfl

variable (engine) in
theorem sharing_sound : (sharing engine).Sound where
  toLawful := sharing_lawful engine
  started {files w i w'} hI h := by
    cases h
    have hfresh : Where engine w.opened ⟨true,false,files,false,[]⟩ none [] (w.enter files).2 := by
      refine ⟨by simp [Store.enter],?_,by simp,by simp⟩
      refine inTransaction_false_iff.mpr fun c hc => ?_
      exact absurd (hI.owner w.opened c hc) (by simp [hI.opened w.opened le_rfl])
    refine (triple_openDatabase rfl _ (enter_inv hI) fun _ => hfresh).mono fun x v _ h ha hbegan => ?_
    obtain ⟨c,hc,hw,hx⟩ := h ha
    refine ⟨hw.pending,by rw [hw.connection]; exact hc (hw.connection ▸ hbegan),fun newly hnewly => ?_⟩
    obtain ⟨migrations,hload,hp,hdone⟩ := hx newly hnewly
    rw [hw.connection]
    refine ⟨⟨migrations,hload,hp.missing⟩,fun migrations' hload' m hm => ?_⟩
    obtain rfl : migrations = migrations' := Except.ok.inj (hload.symm.trans hload')
    by_cases hv : m.version ∈ c.seen.map (·.version)
    · obtain ⟨row,hrow,hversion,hsum⟩ := hp.known m hm hv
      obtain ⟨r,hr,rfl⟩ := hw.seen row hrow
      exact ⟨r,hr,hversion,hsum⟩
    · refine ⟨m,hdone m ?_,rfl,rfl⟩
      rw [hp.missing]
      exact List.mem_filter.mpr ⟨hm,by simpa using hv⟩

/-- What a store and the connections to it are to be like, whatever came before. -/
structure RunExact (c : (processes engine).Config) : Prop where
  ledger : (Store.file c.world).Exact engine
  settled : ∀ i x, c.pool i = some (.ret x) → (Store.connection c.world i).alive = true → (Store.connection c.world i).began = true →
    Settled engine i x c.world

end Opening

section Runs

instance (engine : Engine) (i : ℕ) (sql : (processes engine).sig.Op) (outcome : (processes engine).Outside) (w : (processes engine).World) :
    Decidable ((careful engine).step i sql outcome w) := inferInstanceAs (Decidable (Kept engine i sql outcome w))

instance (engine : Engine) (j : (processes engine).External) (w : (processes engine).World) : Decidable ((careful engine).outer j w) :=
  .isTrue trivial

instance (engine : Engine) (w : (processes engine).World) : Decidable ((careful engine).crash w) := .isTrue trivial

/-- Every line that holds a semicolon ends a statement, and nothing dangles. -/
def plainEngine : Engine where
  complete text := ';' ∈ text
  kind _ := .ordinary
  violations _ := 0
  sha256 := id

def emptyStore : Store := ⟨⟨false,[],[]⟩,none,fun _ => ⟨false,false,[],false,[]⟩,0⟩

theorem emptyStore_initial : (processes plainEngine).initial emptyStore :=
  ⟨⟨by simp [emptyStore],rfl,by simp [emptyStore]⟩,rfl,rfl,fun _ => ⟨rfl,rfl⟩⟩

def rebuild : List (Text × Text) := [("0001_a".toList,"-- localplane:foreign-keys=off\nDROP TABLE a;".toList)]

def advance (i n : ℕ) : List (processes plainEngine).Move := List.replicate n (.step i .done)

/-- Two processes read that nothing is applied; one applies the migration before the other records it. -/
def raced : List (processes plainEngine).Move :=
  .enter rebuild :: advance 0 7 ++ .enter rebuild :: advance 1 7 ++ advance 0 7 ++ advance 1 7

/-- The write lock is refused to a migration that has suspended foreign keys. -/
def refused : List (processes plainEngine).Move := .enter rebuild :: advance 0 8 ++ [.step 0 .failed]

def returned {engine : Engine} (c : (processes engine).Config) (i : ℕ) : Bool :=
  match c.pool i with
  | some (.ret _) => true
  | _ => false

end Runs

end MigrationRuns
end LocalPlane
