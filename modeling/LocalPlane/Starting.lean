import LocalPlane.Recovering

/-!
# The passes a restart makes

The startup pass runs alone. Each of its loops reads a listing once and then works on the
listed Runs one by one, and what it has not come to yet is as it was when it was listed.
-/

set_option linter.dupNamespace false

namespace LocalPlane

open Interleaved.Contract

section Listings

variable {γ : Type} {f : RunId → Option (RunId × γ)}

theorem listing_fst (hf : ∀ r e, f r = some e → e.1 = r) (l : List RunId) :
    ((l.filterMap f).map (·.1)).Sublist l := by
  induction l with
  | nil => exact .slnil
  | cons r l ih =>
    cases hr : f r with
    | none => simpa [List.filterMap_cons,hr] using ih.cons r
    | some e => simpa [List.filterMap_cons,hr,hf r e hr] using ih.cons_cons r

theorem mem_listing_fst (hf : ∀ r e, f r = some e → e.1 = r) {l : List RunId} {r : RunId} {e : RunId × γ}
    (hr : r ∈ l) (he : f r = some e) : r ∈ (l.filterMap f).map (·.1) :=
  List.mem_map.mpr ⟨e,List.mem_filterMap.mpr ⟨r,hr,he⟩,hf r e he⟩

end Listings

/-- The startup pass `i` runs; the Runs it still has to come to are as they were listed, and the
others are as its passes leave them. -/
structure Starting {γ : Type} (i : RequestId) (Φ : RunId × γ → Rows → Prop) (Ψ : Rows → Prop)
    (l : List (RunId × γ)) (w : World) : Prop where
  phase : w.phase = .starting i
  once : (l.map (·.1)).Nodup
  listed : ∀ e ∈ l, e.1 ∈ w.runs ∧ Φ e (w.files e.1).rows
  done : ∀ r ∈ w.runs, r ∉ l.map (·.1) → Ψ (w.files r).rows

/-- Kept while nobody but others is heard. -/
def Rows.Still (i : RequestId) (Φ : Rows → Prop) : Prop := ∀ x x', Rows.Idle i x x' → Φ x → Φ x'

theorem Rows.Idle.change {i : RequestId} {x x' : Rows} (h : Rows.Idle i x x') : x'.change = x.change := by
  obtain ⟨_,rfl,_⟩ := h; rfl

theorem Rows.Idle.state {i : RequestId} {x x' : Rows} (h : Rows.Idle i x x') : x'.state = x.state := by
  obtain ⟨_,rfl,_⟩ := h; rfl

/-- How one round of a pass ends: as its passes leave the Run, or with an error. -/
def Round {α : Type} (Ψ : Rows → Prop) (E : Prop) : Except Error α → Rows → Prop
  | .ok _ => Ψ
  | .error _ => fun _ => E

/-- The startup pass `i` runs, and every Run is as its passes so far leave it. -/
def Between (i : RequestId) (Ψ : Rows → Prop) (w : World) : Prop :=
  w.phase = .starting i ∧ ∀ r ∈ w.runs, Ψ (w.files r).rows

/-- How the whole loop ends. -/
def Passed (i : RequestId) (Ψ : Rows → Prop) (E : Prop) : Except Error Unit → World → Prop
  | .ok _ => Between i Ψ
  | .error _ => fun _ => E

theorem Between.stable {i : RequestId} {Ψ : Rows → Prop} (hΨ : Rows.Still i Ψ) : protocol.Stable i (Between i Ψ) := by
  intro w w' hr h
  obtain ⟨hp,_,hx⟩ := hr.alone h.1
  exact ⟨hp,fun r hr' => hΨ _ _ (hx r) (h.2 r (hr.runs ▸ hr'))⟩

namespace Starting

variable {γ : Type} {i : RequestId} {Φ : RunId × γ → Rows → Prop} {Ψ : Rows → Prop} {E : Prop}
  {body : RunId × γ → Service Unit} {w w' : World}

theorem stable (hΦ : ∀ e, Rows.Still i (Φ e)) (hΨ : Rows.Still i Ψ) (l : List (RunId × γ)) :
    protocol.Stable i (Starting i Φ Ψ l) := by
  intro w w' hr h
  obtain ⟨hp,_,hx⟩ := hr.alone h.phase
  exact {
    phase := hp
    once := h.once
    listed := fun e he => ⟨hr.runs ▸ (h.listed e he).1,hΦ e _ _ (hx e.1) (h.listed e he).2⟩
    done := fun r hr' hl => hΨ _ _ (hx r) (h.done r (hr.runs ▸ hr') hl) }

/-- The caller that works on one entry, and the Run it is about. -/
def caller (w : World) : Caller := ⟨.startup,w.runs,True,fun r => (w.files r).rows⟩

def subject (w : World) (r : RunId) : Subject :=
  ⟨r,(w.files r).object,(w.files r).supported,(w.files r).preview⟩

theorem forEach (hΦ : ∀ e, Rows.Still i (Φ e)) (hΨ : Rows.Still i Ψ)
    (hbody : ∀ (q : Caller) (s : Subject) (a : γ), q.alone → Serves q i s (Φ (s.id,a)) (body (s.id,a)) (Round Ψ E))
    (l : List (RunId × γ)) :
    protocol.Triple i (Starting i Φ Ψ l) (Program.forEach l body) (Passed i Ψ E) := by
  have hdone : protocol.Triple i (Starting i Φ Ψ []) (.ret (.ok ())) (Passed i Ψ E) := by
    refine Triple.ret (stable hΦ hΨ []) fun {w} _ h => ?_
    exact ⟨h.phase,fun r hr => h.done r hr (by simp)⟩
  refine Triple.forEach protocol_lawful hdone (fun e rest => ?_) l
  intro w hI h
  have hround := hbody (caller w) (subject w e.1) e.2 trivial
  refine (hround w hI ?_).mono fun x v hv hx => ?_
  · exact {
      mode := .inr ⟨h.phase,trivial⟩
      asked := hI.starter i h.phase
      runs := rfl
      listed := (h.listed e List.mem_cons_self).1
      object := rfl
      supported := rfl
      preview := rfl
      apart := fun _ r _ => .refl i _
      holds := (h.listed e List.mem_cons_self).2 }
  · cases x with
    | error error => exact fun _ _ _ => hx.holds
    | ok _ =>
      have hruns : v.runs = w.runs := hx.runs
      have honce : e.1 ∉ rest.map (·.1) ∧ (rest.map (·.1)).Nodup := List.nodup_cons.mp h.once
      have hother : ∀ r, r ≠ e.1 → Rows.Idle i (w.files r).rows (v.files r).rows := hx.apart trivial
      exact {
        phase := hx.mode.elim (fun hm => absurd trivial hm.2) And.left
        once := honce.2
        listed := fun e' he' => by
          have hne : e'.1 ≠ e.1 := fun h => honce.1 (h ▸ List.mem_map_of_mem he')
          obtain ⟨hr,hφ⟩ := h.listed e' (List.mem_cons_of_mem _ he')
          exact ⟨hruns ▸ hr,hΦ e' _ _ (hother _ hne) hφ⟩
        done := fun r hr hnot => by
          by_cases hre : r = e.1
          · subst hre; exact hx.holds
          · refine hΨ _ _ (hother r hre) (h.done r (hruns ▸ hr) ?_)
            simpa [hre] using hnot }

/-- What a listing in any order says about the listed Runs, and about the others. -/
theorem of_listing (L : γ → Rows → Prop) {f : RunId → Option (RunId × γ)} {order : List RunId}
    (hf : ∀ r e, f r = some e → e.1 = r ∧ L e.2 (w.files r).rows)
    (hL : ∀ r a, L a (w.files r).rows → f r ≠ none) (ho : order.Perm w.runs) (h : Between i Ψ w) :
    Starting i (fun e x => Ψ x ∧ L e.2 x) (fun x => Ψ x ∧ ∀ a, ¬L a x) (order.filterMap f) w where
  phase := h.1
  once := (listing_fst (fun r e he => (hf r e he).1) order).nodup (ho.nodup_iff.mpr w.listed)
  listed e he := by
    obtain ⟨r,hr,hre⟩ := List.mem_filterMap.mp he
    obtain ⟨her,hl⟩ := hf r e hre
    subst her
    exact ⟨ho.mem_iff.mp hr,h.2 _ (ho.mem_iff.mp hr),hl⟩
  done r hr hnot := by
    refine ⟨h.2 r hr,fun a ha => ?_⟩
    obtain ⟨e,he⟩ := Option.ne_none_iff_exists'.mp (hL r a ha)
    exact hnot (mem_listing_fst (fun r e he => (hf r e he).1) (ho.mem_iff.mpr hr) he)

theorem of_unsettledGuards {order : List RunId} (ho : order.Perm w.runs) (h : Between i Ψ w) :
    Starting i (fun e x => Ψ x ∧ x.guard = some e.2 ∧ e.2.settled = none)
      (fun x => Ψ x ∧ ∀ g, ¬(x.guard = some g ∧ g.settled = none)) (w.unsettledGuards order) w := by
  have hrow : ∀ r, (w.files r).rows.guard = (w.files r).guard.map (·.1) := fun _ => rfl
  refine of_listing (fun g x => x.guard = some g ∧ g.settled = none) (fun r e he => ?_) (fun r g hg => ?_) ho h
  · split at he
    · next g hg =>
      split at he
      · next hn => cases he; exact ⟨rfl,by rw [hrow,hg]; rfl,by simpa using hn⟩
      · cases he
    · cases he
  · obtain ⟨g',hg',rfl⟩ := Option.map_eq_some_iff.mp (hrow r ▸ hg.1)
    simp [hg',hg.2]

theorem of_unsettledChanges {order : List RunId} (ho : order.Perm w.runs) (h : Between i Ψ w) :
    Starting i (fun e x => Ψ x ∧ x.change = some e.2 ∧ e.2.result = .inFlight)
      (fun x => Ψ x ∧ ∀ ch, ¬(x.change = some ch ∧ ch.result = .inFlight)) (w.unsettledChanges order) w := by
  have hrow : ∀ r, (w.files r).rows.change = (w.files r).change.map (·.1) := fun _ => rfl
  refine of_listing (fun ch x => x.change = some ch ∧ ch.result = .inFlight) (fun r e he => ?_) (fun r ch hch => ?_) ho h
  · split at he
    · next ch hch =>
      split at he
      · next hn => cases he; exact ⟨rfl,by rw [hrow,hch]; rfl,hn⟩
      · cases he
    · cases he
  · obtain ⟨ch',hch',rfl⟩ := Option.map_eq_some_iff.mp (hrow r ▸ hch.1)
    simp [hch',hch.2]

theorem of_unsettledAttempts {order : List RunId} (ho : order.Perm w.runs) (h : Between i Ψ w) :
    Starting i (fun e x => Ψ x ∧ e.2 ∈ x.attempts ∧ e.2.outcome = .inFlight)
      (fun x => Ψ x ∧ ∀ a, ¬(a ∈ x.attempts ∧ a.outcome = .inFlight)) (w.unsettledAttempts order) w := by
  have hrow : ∀ r, (w.files r).rows.attempts = (w.files r).attempts.map (·.1) := fun _ => rfl
  refine of_listing (fun a x => a ∈ x.attempts ∧ a.outcome = .inFlight) (fun r e he => ?_) (fun r a ha => ?_) ho h
  · obtain ⟨a,ha,rfl⟩ := Option.map_eq_some_iff.mp he
    exact ⟨rfl,by rw [hrow]; exact List.mem_map_of_mem (List.mem_of_find?_eq_some ha),by simpa using List.find?_some ha⟩
  · obtain ⟨b,hb,rfl⟩ := List.mem_map.mp (hrow r ▸ ha.1)
    have hsome : ((w.files r).inFlight).isSome := List.find?_isSome.mpr ⟨b,hb,by simpa using ha.2⟩
    simpa [Option.isSome_iff_ne_none] using hsome

end Starting

namespace Service

open Serves

variable {q : Caller} {i : RequestId} {s : Subject} {run : RunRecord} {α : Type} {P : Rows → Prop}

/-- With nobody else at the store, whatever the rows say stays so. -/
theorem alone_stable (ha : q.alone) (hP : Rows.Still i P) : q.Stable i P := fun _ hidle h => hP _ _ (hidle ha) h

theorem serves_round {p : Service Unit} (h : Runs q i s P p) : Serves q i s P p (Round (fun _ => True) True) :=
  h.conseq (fun _ hx => hx) fun v => match v with
    | .ok _ => fun _ _ => trivial
    | .error _ => fun _ _ => trivial

theorem runs_discard {p : Service α} (h : Runs q i s P p) : Runs q i s P (do let _ ← p) :=
  andThen _ h fun _ => Serves.ret (true_stable i) fun _ _ => trivial

/-- What a listing of the guards says about one of them, and a report that came in since. -/
structure Rows.Collecting (i : RequestId) (run : RunRecord) (report : GuardReport) (x : Rows) : Prop where
  guard : x.guard.isSome
  waiting : run.state = .guarded → x.Waiting
  answered : x.Answered i report

theorem runs_settleInterruptedGuard (ha : q.alone) (guard : GuardColumns) :
    Runs q i s (fun x => x.guard.isSome) (settleInterruptedGuard (s.id,guard)) := by
  have hguard : q.Stable i fun x => x.guard.isSome := fun hr _ h => hr.guarded h
  unfold settleInterruptedGuard
  refine serves_askState rfl hguard fun run hrun => ?_
  have hlisted : q.Stable i fun x => x.guard.isSome ∧ (run.state = .guarded → x.Waiting) :=
    fun hr _ h => ⟨hr.guarded h.1,fun hg => hr.waiting (h.2 hg)⟩
  refine @Serves.pre q i s (fun x => x.guard.isSome ∧ (run.state = .guarded → x.Waiting)) _ _ _ _ ?_
    fun hx h => ⟨h.1,fun hg => hx.coherent.guarded (h.2.symm.trans hg)⟩
  split
  · exact Serves.ret hlisted fun _ _ => trivial
  rw [hrun.id]
  refine Serves.guardStatus (fun report => Rows.Collecting i run report) hlisted ?_ fun report => ?_
  · exact fun report _ h => ⟨h.1,h.2,.inr List.mem_cons_self⟩
  have hP : q.Stable i (Rows.Collecting i run report) :=
    fun hr _ h => ⟨hr.guarded h.guard,fun hg => hr.waiting (h.waiting hg),hr.answered h.answered⟩
  show Runs q i s _ (if report = .armed ∨ report = .unreachable then _ else _)
  split
  · exact Serves.ret hP fun _ _ => trivial
  next hr =>
  have hne : report ≠ .armed := fun h => hr (.inl h)
  have hsettle : Runs q i s (Rows.Collecting i run report) (commit s.id (.settleGuard report)) := by
    refine Serves.commit (fun _ => True) hP ?_ nofun (fun _ _ _ => trivial) ?_ fun _ => failed hP
    · exact fun _ h => ⟨h.guard,h.answered,hne,.inr (.inr ha)⟩
    · exact Serves.ret (true_stable i) fun _ _ => trivial
  refine serves_reads (ask_reads rfl) hP fun change => ?_
  cases change with
  | none => exact hsettle
  | some change =>
  simp only
  split
  · next hg =>
    exact (runs_discard (runs_settleLapsed hrun hne change guard)).pre fun _ h => ⟨h.waiting hg,h.answered⟩
  · exact hsettle

/-- The Change of an interrupted Run ends from what it records. -/
theorem runs_finishAlone (ha : q.alone) (hrun : run.Of s) {ch : ChangeColumns} (hin : ch.result = .inFlight)
    {state : RunState} {result : ChangeResult} {reason : Option RecoveryReason}
    (hend : ∀ {x}, s.Fits x → Ending x ch state result reason) :
    Runs q i s (fun x => x.change = some ch) (do let _ ← finish run state result reason) := by
  have hP : q.Stable i fun x => x.change = some ch := alone_stable ha fun _ _ h hx => h.change.trans hx
  refine runs_discard ?_
  unfold finish
  rw [hrun.id]
  refine Serves.change hP fun change => ?_
  cases change with
  | none => exact (failed hP).pre fun _ hx => hx.1
  | some settled =>
  refine Serves.extract (fun _ hx => ?_) fun (hs : settled = ch) => Serves.pre ?_ fun _ hx => hx.1
  · exact Option.some.inj (hx.2.trans hx.1)
  subst hs
  refine serves_commit (fun _ => True) rfl hP nofun ?_ (fun _ _ _ => trivial) ?_
  · exact fun hx hch => ⟨settled,hch,hin,rfl,.inr (.inr ha),hend hx⟩
  · refine serves_askRun rfl (true_stable i) fun run hrun => ?_
    refine serves_reads (requireChange_reads _) (true_stable i) fun change => ?_
    exact Serves.ret (true_stable i) fun _ _ => trivial

/-- Whatever the restart reads out of the outcome, it rests on the Change. -/
theorem runs_interpret (ha : q.alone) (hrun : run.Of s) {ch : ChangeColumns} {outcome : MutationOutcome}
    (hin : ch.result = .inFlight) (hm : ch.mutation = some outcome) :
    Runs q i s (fun x => x.change = some ch)
      (if outcome = .notWritten then do
        let _ ← finish run .failed .failed none
      else if outcome = .written ∧ ch.verification = .verified ∧ ¬run.preview.isGuarded then do
        let _ ← finish run .succeeded .succeeded none
      else do
        let _ ← recover run
          (if outcome = .writeUnknown then .applyWriteUnknown else .applyInterruptedAfterWrite)) := by
  have hP : q.Stable i fun x => x.change = some ch := alone_stable ha fun _ _ h hx => h.change.trans hx
  split
  · next ho => exact runs_finishAlone ha hrun hin fun _ => .failed (ho ▸ hm)
  next hn =>
  split
  · next ho =>
    refine runs_finishAlone ha hrun hin fun hx => .succeeded (ho.1 ▸ hm) ho.2.1 fun hg => ?_
    rw [hx.preview,← hrun.preview] at hg
    exact absurd hg ho.2.2
  · unfold recover
    simp only [Program.bind_assoc]
    refine serves_commit (fun x => x.change = some ch) hrun.id hP nofun (fun _ _ => trivial) (fun _ hx _ => hx) ?_
    refine runs_finishAlone ha hrun hin fun _ => .recoveryRequired _ ?_
    cases outcome with
    | notWritten => exact absurd rfl hn
    | written => exact .inl hm
    | writeUnknown => exact .inr hm

theorem runs_settleInterruptedChange (ha : q.alone) (ch : ChangeColumns) :
    Runs q i s (fun x => x.change = some ch ∧ ch.result = .inFlight) (settleInterruptedChange (s.id,ch)) := by
  refine Serves.extract (fun _ hx => hx.2) fun hin => Serves.pre ?_ fun _ hx => hx.1
  have hP : q.Stable i fun x => x.change = some ch := alone_stable ha fun _ _ h hx => h.change.trans hx
  unfold settleInterruptedChange
  refine serves_askState rfl hP fun run hrun => ?_
  split
  · exact (Serves.ret (true_stable i) fun _ _ => trivial).pre fun _ _ => trivial
  next hg =>
  cases hm : ch.mutation with
  | some outcome =>
    simp only [Option.isNone_some,outcomeOnRecovery_recorded,Bool.false_eq_true,if_false,
      Program.pure_eq,Program.bind_ok]
    exact (runs_interpret ha hrun hin hm).pre fun _ hx => hx.1
  | none =>
    let outcome := outcomeOnRecovery ch.dispatchBegan none
    let recorded : ChangeColumns := { ch with
      mutation := some outcome, hostEffect := hostEffectFor outcome }
    have hrecorded : q.Stable i fun x => x.change = some recorded := alone_stable ha fun _ _ h hx => h.change.trans hx
    have hguarded : q.Stable i fun x => x.change = some ch ∧ run.state = x.state :=
      fun _ h hx => ⟨(h ha).change.trans hx.1,hx.2.trans (h ha).state.symm⟩
    simp only [Option.isNone_none,if_true,Program.pure_eq,Program.bind_ok]
    refine serves_commit (fun x => x.change = some recorded) hrun.id hguarded nofun ?_ ?_ ?_
    · exact fun _ hx => ⟨ha,hx.2 ▸ hg,ch,hx.1,hin,hm,rfl⟩
    · intro x _ _ hx _
      simp [Commit.rows,Rows.record,Rows.amend,hx.1,recorded,outcome]
    refine serves_askRun hrun.id hrecorded fun run hrun => ?_
    rw [hrun.id]
    refine Serves.change hrecorded fun change => ?_
    cases change with
    | none => exact (failed hrecorded).pre fun _ hx => hx.1
    | some settled =>
    refine Serves.extract (fun _ hx => ?_) fun (hs : settled = recorded) => Serves.pre ?_ fun _ hx => hx.1
    · exact Option.some.inj (hx.2.trans hx.1)
    subst hs
    exact runs_interpret ha hrun hin rfl

theorem runs_settleInterruptedAttempt (ha : q.alone) (a : AttemptColumns) :
    Runs q i s (fun _ => True) (settleInterruptedAttempt (s.id,a)) := by
  unfold settleInterruptedAttempt
  refine Serves.commit (fun _ => True) (true_stable i) (fun _ _ => ha) nofun (fun _ _ _ => trivial) ?_ fun _ => failed (true_stable i)
  exact Serves.ret (true_stable i) fun _ _ => trivial

/-! The three passes -/

/-- A listing moves nothing. -/
theorem triple_listing {op : Op} {f : op.Ret → Service α} {Ψ : Rows → Prop} {A : op.Ret → World → Prop}
    {B : Except Error α → World → Prop} (hop : ∀ out w, (World.perform i op out w).2 = w)
    (hl : ∀ w, World.Permits w i (w.phase = .starting i) op) (hΨ : Rows.Still i Ψ)
    (hA : ∀ out w, Between i Ψ w → A (World.perform i op out w).1 w) (hn : ∀ a, protocol.Triple i (A a) (f a) B) :
    protocol.Triple i (Between i Ψ) (ask op >>= f) B := by
  refine Triple.act protocol_lawful (Between.stable hΨ) (fun {w} hI h => ?_) fun a v hv hpost => ?_
  · exact ⟨.inr h.1,(List.getElem?_eq_some_iff.mp (hI.starter i h.1)).1,hl w⟩
  · obtain ⟨w,out,_,h,_,he⟩ := hpost
    have hpair : World.perform i op out w = (a,v) := he
    have hsame : (a,v).2 = w := hpair ▸ hop out w
    have ha : A (a,v).1 w := hpair ▸ hA out w h
    exact hn a v hv (by rw [show v = w from hsame]; exact ha)

theorem triple_serve {Ψ : Rows → Prop} (hΨ : Rows.Still i Ψ) :
    protocol.Triple i (Between i Ψ) (do ask .serve; return Response.done) fun _ _ => True := by
  refine Triple.act protocol_lawful (Between.stable hΨ) (fun {w} hI h => ?_) fun _ => fun _ _ _ _ _ _ => trivial
  exact ⟨.inr h.1,(List.getElem?_eq_some_iff.mp (hI.starter i h.1)).1,h.1⟩

/-- One whole pass, and what comes after it. -/
theorem triple_pass {γ : Type} {list : List (RunId × γ)} {L : RunId × γ → Rows → Prop} (Ψ : Rows → Prop) (E : Prop)
    {Ψ' : Rows → Prop} {body : RunId × γ → Service Unit} {f : Unit → Service α} {B : Except Error α → World → Prop}
    (hbody : ∀ (q : Caller) (s : Subject) (a : γ), q.alone → Serves q i s (L (s.id,a)) (body (s.id,a)) (Round Ψ E))
    (hL : ∀ e, Rows.Still i (L e)) (hΨ : Rows.Still i Ψ) (hdone : ∀ x, Ψ' x → Ψ x)
    (hn : protocol.Triple i (Between i Ψ) (f ()) B) (he : E → ∀ e w, B (.error e) w) :
    protocol.Triple i (Starting i L Ψ' list) (Program.forEach list body >>= f) B := by
  have hloop : protocol.Triple i (Starting i L Ψ' list) (Program.forEach list body) (Passed i Ψ E) :=
    (Starting.forEach hL hΨ hbody list).conseq
      (fun _ h => { h with done := fun r hr hnot => hdone _ (h.done r hr hnot) }) fun _ _ _ hx => hx
  refine Triple.bind protocol_lawful hloop (fun _ => hn) fun e => ?_
  exact Triple.ret (fun _ h => h) fun _ h => he h e _

theorem still_rows {L : Rows → Prop} (hL : ∀ x journal, L x → L { x with journal }) : Rows.Still i L :=
  fun _ _ ⟨_,h,_⟩ hx => by rw [h]; exact hL _ _ hx

/-- The startup pass keeps to its licences, whatever it finds. -/
theorem triple_startup : protocol.Triple i (fun w => w.phase = .starting i) startup fun _ _ => True := by
  let any : Rows → Prop := fun _ => True
  have hany : Rows.Still i any := fun _ _ _ _ => trivial
  have hattempts : protocol.Triple i (Between i any) (do
      let attempts ← ask .unsettledAttempts
      Program.forEach attempts settleInterruptedAttempt
      ask .serve
      return Response.done) fun _ _ => True := by
    refine triple_listing (fun _ _ => rfl) (fun _ => trivial) hany
      (fun out w h => Starting.of_unsettledAttempts (out.order.2 w.runs) h) fun attempts => ?_
    refine triple_pass any True ?_ (fun e => still_rows fun _ _ hx => hx) hany (fun _ _ => trivial)
      (triple_serve hany) fun _ _ _ => trivial
    exact fun q s a ha => (serves_round (runs_settleInterruptedAttempt ha a)).pre fun _ _ => trivial
  have hchanges : protocol.Triple i (Between i any) (do
      let changes ← ask .unsettledChanges
      Program.forEach changes settleInterruptedChange
      let attempts ← ask .unsettledAttempts
      Program.forEach attempts settleInterruptedAttempt
      ask .serve
      return Response.done) fun _ _ => True := by
    refine triple_listing (fun _ _ => rfl) (fun _ => trivial) hany
      (fun out w h => Starting.of_unsettledChanges (out.order.2 w.runs) h) fun changes => ?_
    refine triple_pass any True ?_ (fun e => still_rows fun _ _ hx => hx) hany (fun _ _ => trivial)
      hattempts fun _ _ _ => trivial
    exact fun q s ch ha => (serves_round (runs_settleInterruptedChange ha ch)).pre fun _ hx => hx.2
  have hguards : protocol.Triple i (Between i any) startup fun _ _ => True := by
    refine triple_listing (fun _ _ => rfl) (fun _ => trivial) hany
      (fun out w h => Starting.of_unsettledGuards (out.order.2 w.runs) h) fun guards => ?_
    refine triple_pass any True ?_ (fun e => still_rows fun _ _ hx => hx) hany (fun _ _ => trivial)
      hchanges fun _ _ _ => trivial
    exact fun q s g ha => (serves_round (runs_settleInterruptedGuard ha g)).pre fun _ hx => by simp [hx.2.1]
  exact fun w hI h => hguards w hI ⟨h,fun _ _ => trivial⟩

end Service
end LocalPlane
