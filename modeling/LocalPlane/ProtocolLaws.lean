import LocalPlane.OwnedCommits

/-!
# Every licensed operation keeps the protocol

The laws the protocol owes before any program is looked at: what a request relies on
composes, a licensed operation keeps the invariant and disturbs no other request, and
so do the requests that arrive, what happens outside, and a crash.
-/

set_option linter.dupNamespace false

namespace LocalPlane
namespace Rows

variable {i j : RequestId} {x y z : Rows}

theorem Rely.refl (j : RequestId) (x : Rows) : Rely j x x := (Quiet.refl (j+1) x).rely (Nat.ne_of_lt (Nat.lt_succ_self j))

theorem Rely.spentBy (h : Rely j x y) (hs : x.spentBy i) : y.spentBy i := by
  rw [Rows.spentBy,h.spent (consumed_of_spentBy hs)]; exact hs

theorem Rely.trans (h : Rely j x y) (h' : Rely j y z) : Rely j x z where
  preview := h'.preview.trans h.preview
  object := h'.object.trans h.object
  host := h'.host.trans h.host
  supported := h'.supported.trans h.supported
  spent hc := by
    have hy : y.consumed := by rw [consumed,h.spent hc]; exact hc
    exact (h'.spent hy).trans (h.spent hc)
  unspent hs := h.unspent (h'.unspent hs)
  checkpoint hk := by
    have hy := h.checkpoint hk
    exact (h'.checkpoint (hy ▸ hk)).trans hy
  owner hs hh := by
    obtain ⟨h1,h2,h3,h4,h5⟩ := h.owner hs hh
    obtain ⟨k1,k2,k3,k4,k5⟩ := h'.owner (h.spentBy hs) h4
    exact ⟨k1.trans h1,k2.trans h2,k3.trans h3,k4,fun he => h5 (k5 he)⟩
  settler hs hh := (h'.settler (h.settled hs) (h.held hh)).trans (h.settler hs hh)
  settled hs := h'.settled (h.settled hs)
  unsettled hs := h.unsettled (h'.unsettled hs)
  held hh := h'.held (h.held hh)
  waiting hw := h'.waiting (h.waiting hw)
  guard g hg hs := h'.guard g (h.guard g hg hs) hs
  guarded hg := h'.guarded (h.guarded hg)
  finished ch hch hr := by
    have hy := h.finished ch hch hr
    obtain ⟨ch',hch',hcore⟩ := Option.map_eq_some_iff.mp hy
    have hr' : ch'.result = ch.result := by
      show ch'.core.result = ch.core.result; rw [hcore]
    exact (h'.finished ch' hch' (hr' ▸ hr)).trans (by rw [hcore])
  planned ch hch := by
    obtain ⟨ch',hch',hp⟩ := h.planned ch hch
    obtain ⟨ch'',hch'',hp'⟩ := h'.planned ch' hch'
    exact ⟨ch'',hch'',hp'.trans hp⟩
  attempts a ha ho := h'.attempts a (h.attempts a ha ho) ho
  unopened a ha ho := h.unopened a (h'.unopened a ha ho) ho
  calls := by
    obtain ⟨new,hn,hi⟩ := h.calls
    obtain ⟨new',hn',hi'⟩ := h'.calls
    refine ⟨new' ++ new,by rw [hn',hn,List.append_assoc],fun call hc => ?_⟩
    exact (List.mem_append.mp hc).elim (hi' call) (hi call)

theorem Idle.refl (j : RequestId) (x : Rows) : Idle j x x := ⟨[],rfl,by simp⟩

theorem Idle.trans (h : Idle j x y) (h' : Idle j y z) : Idle j x z := by
  obtain ⟨new,rfl,hi⟩ := h
  obtain ⟨new',rfl,hi'⟩ := h'
  refine ⟨new' ++ new,by simp,fun call hc => ?_⟩
  exact (List.mem_append.mp hc).elim (hi' call) (hi call)

theorem Idle.rely (h : Idle j x y) : Rely j x y := by
  obtain ⟨new,rfl,hi⟩ := h
  exact { Rely.refl j x with calls := ⟨new,rfl,hi⟩ }

theorem reattempt_openers {openedBy : RequestId} {update : AttemptColumns → AttemptColumns}
    (hu : ∀ a, (update a).openedBy = a.openedBy) :
    ∀ a ∈ (x.reattempt openedBy update).attempts, ∃ b ∈ x.attempts, b.openedBy = a.openedBy := by
  intro a ha
  unfold reattempt at ha
  split at ha
  · exact ⟨a,ha,rfl⟩
  · next found hf =>
    obtain ⟨b,hb,rfl⟩ := List.mem_map.mp ha
    refine ⟨b,hb,?_⟩
    split
    · next ho =>
      have hfo : found.openedBy = openedBy := by simpa using List.find?_some hf
      rw [hu,hfo,ho]
    · rfl

end Rows

namespace Commit

open Rows

variable {i k : RequestId} {x : Rows} {c : Commit} {alone : Prop} {locked : Bool}

theorem rows_spentBy (hl : c.Licence i alone x) (hr : c.Requires locked x) (hk : (c.rows i x).spentBy k) :
    k = i ∨ x.spentBy k := by
  cases hq : c.quiet with
  | true => exact .inr ((rows_quiet hq hr).spentBy k ▸ hk)
  | false =>
    by_cases hc : ∃ seen, c = .consumeConfirmation seen
    · obtain ⟨seen,rfl⟩ := hc
      obtain ⟨⟨d,hd,_⟩,_⟩ := hr
      have hi : i = k := by simpa [rows,spend,Rows.spentBy,hd] using hk
      exact .inl hi.symm
    · exact .inr ((rows_kept hq (fun seen h => hc ⟨seen,h⟩) hl hr).spentBy k ▸ hk)

theorem rows_settledBy (hl : c.Licence i alone x) (hr : c.Requires locked x)
    (hk : (c.rows i x).settledBy k) : k = i ∨ x.settledBy k := by
  cases hq : c.quiet with
  | true => exact .inr ((rows_quiet hq hr).settledBy ▸ hk)
  | false =>
    by_cases hc : ∃ seen, c = .consumeConfirmation seen
    · obtain ⟨seen,rfl⟩ := hc
      exact .inr hk
    · by_cases hki : k = i
      · exact .inl hki
      · exact .inr ((rows_kept hq (fun seen h => hc ⟨seen,h⟩) hl hr).settledBy k hki ▸ hk)

theorem rows_openers (hl : c.Licence i alone x) (hr : c.Requires locked x) :
    ∀ a ∈ (c.rows i x).attempts, a.openedBy = i ∨ ∃ b ∈ x.attempts, b.openedBy = a.openedBy := by
  intro a ha
  cases hq : c.quiet with
  | true =>
    by_cases hi : a.openedBy = c.opener i
    · cases c with
      | interruptAttempt openedBy unknown =>
        refine .inr (reattempt_openers ?_ a ha)
        exact fun _ => rfl
      | _ => exact .inl hi
    · exact .inr ⟨a,(rows_quiet hq hr).unopened a ha hi,rfl⟩
  | false =>
    by_cases hc : ∃ seen, c = .consumeConfirmation seen
    · obtain ⟨seen,rfl⟩ := hc
      exact .inr ⟨a,ha,rfl⟩
    · rw [(rows_kept hq (fun seen h => hc ⟨seen,h⟩) hl hr).attempts] at ha
      exact .inr ⟨a,ha,rfl⟩

/-- No commit moves what a lock key is made of, what the Run is about, or the journal. -/
theorem rows_frame : (c.rows i x).host = x.host ∧ (c.rows i x).object = x.object ∧
    (c.rows i x).preview = x.preview ∧ (c.rows i x).journal = x.journal ∧
    (c.rows i x).supported = x.supported := by
  have hre : ∀ o u, (x.reattempt o u).host = x.host ∧ (x.reattempt o u).object = x.object ∧
      (x.reattempt o u).preview = x.preview ∧ (x.reattempt o u).journal = x.journal ∧
      (x.reattempt o u).supported = x.supported := by
    intro o u
    unfold reattempt
    split <;> exact ⟨rfl,rfl,rfl,rfl,rfl⟩
  cases c with
  | writeCheckpoint correlation => simp only [rows]; split <;> exact ⟨rfl,rfl,rfl,rfl,rfl⟩
  | spendRecovery correlation =>
    simp only [rows]
    split
    · exact ⟨rfl,rfl,rfl,rfl,rfl⟩
    · unfold reattempt
      split <;> exact ⟨rfl,rfl,rfl,rfl,rfl⟩
  | recordEvidence read => exact hre _ _
  | recordRecovery outcome => exact hre _ _
  | recordRecoveryVerification read => exact hre _ _
  | completeRecovery outcome => exact hre _ _
  | settleRetry outcome => exact hre _ _
  | refuseRecovery code => exact hre _ _
  | interruptAttempt openedBy unknown => exact hre _ _
  | _ => exact ⟨rfl,rfl,rfl,rfl,rfl⟩

end Commit

namespace World

variable {w w' : World} {i j : RequestId} {r : RunId} {caller : Option RequestId}

theorem Rely.refl (j : RequestId) (w : World) : Rely j w w where
  runs := rfl
  requests := List.prefix_rfl
  serving h := ⟨h,fun _ => .refl j _⟩
  alone h := ⟨h,rfl,fun _ => .refl j _⟩

theorem Rely.trans {u v w : World} (h : Rely j u v) (h' : Rely j v w) : Rely j u w where
  runs := h'.runs.trans h.runs
  requests := h.requests.trans h'.requests
  serving hs := by
    obtain ⟨hv,hx⟩ := h.serving hs
    obtain ⟨hw,hy⟩ := h'.serving hv
    exact ⟨hw,fun run => (hx run).trans (hy run)⟩
  alone hs := by
    obtain ⟨hv,hl,hx⟩ := h.alone hs
    obtain ⟨hw,hl',hy⟩ := h'.alone hv
    exact ⟨hw,hl'.trans hl,fun run => (hx run).trans (hy run)⟩

/-- Two worlds whose rows differ by calls that were logged, all of them made by one request or
by none. -/
structure Heard (caller : Option RequestId) (w w' : World) : Prop where
  runs : w'.runs = w.runs
  requests : w'.requests = w.requests
  phase : w'.phase = w.phase
  locks : w'.locks = w.locks
  rows : ∀ run, ∃ new, (w'.files run).rows = { (w.files run).rows with
    journal := new ++ (w.files run).rows.journal } ∧ ∀ call ∈ new, call.request? = caller

theorem Heard.rely (h : Heard caller w w') (hj : caller ≠ some j) : Rely j w w' := by
  have hidle : ∀ run, Rows.Idle j (w.files run).rows (w'.files run).rows := by
    intro run
    obtain ⟨new,hn,hi⟩ := h.rows run
    exact ⟨new,hn,fun call hc => hi call hc ▸ hj⟩
  exact {
    runs := h.runs
    requests := h.requests ▸ List.prefix_rfl
    serving := fun hs => ⟨h.phase.trans hs,fun run => (hidle run).rely⟩
    alone := fun hs => ⟨h.phase.trans hs,h.locks,hidle⟩ }

/-- A journal entry changes nothing the rows say. -/
theorem coherent_heard {x : Rows} {new : List Call} (h : x.Coherent) :
    Rows.Coherent { x with journal := new ++ x.journal } := { h with }

theorem rows_log (w : World) (r run : RunId) (call : Call) : ((w.log r call).files run).rows =
    if run = r then { (w.files run).rows with journal := call :: (w.files run).rows.journal }
    else (w.files run).rows := by
  by_cases h : run = r
  · subst h; simp [log,setFile]; rfl
  · simp [log,setFile,h]

/-- Logging one call in a world that moved nothing else but the host and the agent. -/
theorem heard_log (r : RunId) (call : Call) (hr : w'.runs = w.runs) (hq : w'.requests = w.requests)
    (hp : w'.phase = w.phase) (hl : w'.locks = w.locks) (hf : w'.files = (w.log r call).files) :
    Heard call.request? w w' where
  runs := hr
  requests := hq
  phase := hp
  locks := hl
  rows run := by
    rw [hf,rows_log]
    split
    · exact ⟨[call],rfl,by simp⟩
    · exact ⟨[],rfl,by simp⟩

theorem heard_refl (hr : w'.runs = w.runs) (hq : w'.requests = w.requests)
    (hp : w'.phase = w.phase) (hl : w'.locks = w.locks) (hf : w'.files = w.files) :
    Heard caller w w' where
  runs := hr
  requests := hq
  phase := hp
  locks := hl
  rows run := ⟨[],by rw [hf]; rfl,by simp⟩

theorem lockKey_eq {f : RunFile} : f.lockKey = ⟨f.rows.host,f.rows.object,f.rows.preview.change.lockAspect⟩ := rfl

theorem Heard.inv (h : Heard caller w w') (hi : ∀ i, caller = some i → i < w.requests.length) (hI : Inv w) : Inv w' where
  coherent run := by
    obtain ⟨new,hn,_⟩ := h.rows run
    rw [hn]; exact coherent_heard (hI.coherent run)
  locks run key hk := by
    rw [h.locks] at hk
    obtain ⟨new,hn,_⟩ := h.rows run
    rw [lockKey_eq,hn,h.runs]; exact hI.locks run key hk
  known run k hk := by
    obtain ⟨new,hn,_⟩ := h.rows run
    rw [hn] at hk; rw [h.requests]; exact hI.known run k hk
  settlers run k hk := by
    obtain ⟨new,hn,_⟩ := h.rows run
    rw [hn] at hk; rw [h.requests]; exact hI.settlers run k hk
  openers run a ha := by
    obtain ⟨new,hn,_⟩ := h.rows run
    rw [hn] at ha; rw [h.requests]; exact hI.openers run a ha
  callers run call hc k hk := by
    obtain ⟨new,hn,hnew⟩ := h.rows run
    have hjournal : (w'.files run).journal = new ++ (w.files run).journal := congrArg Rows.journal hn
    rw [hjournal] at hc
    rw [h.requests]
    rcases List.mem_append.mp hc with hc | hc
    · exact hi k ((hnew call hc).symm.trans hk)
    · exact hI.callers run call hc k hk
  starter k hk := by rw [h.requests]; exact hI.starter k (h.phase ▸ hk)

/-- Every call to an executor or to the holder of a guard is heard, and moves no row. -/
theorem mutate_heard (w : World) (i : RequestId) (r : RunId) (m : MutationRequest) (outcome : MutationOutcome)
    (landed : Bool) : Heard (some i) w (w.mutate i r m outcome landed) := by
  have hlog := fun (v : World) => @heard_log w v r (.mutated i m.purpose m.attempt outcome (outcome.lands landed))
  simp only [mutate]
  split
  · split
    · exact hlog _ rfl rfl rfl rfl rfl
    · exact hlog _ rfl rfl rfl rfl rfl
  · exact hlog _ rfl rfl rfl rfl rfl

theorem armGuard_heard (w : World) (i : RequestId) (r : RunId) (guard : ArmedGuard) (delivery : Delivery) :
    Heard (some i) w (w.armGuard i r guard delivery).2 := by
  have hlog := fun (v : World) (held : Bool) => @heard_log w v r (.guardAsked i held)
  cases delivery with
  | lost => exact hlog _ false rfl rfl rfl rfl rfl
  | unanswered =>
    simp only [armGuard]
    split
    · exact hlog _ true rfl rfl rfl rfl rfl
    · exact hlog _ false rfl rfl rfl rfl rfl
  | answered =>
    simp only [armGuard]
    split
    · exact hlog _ true rfl rfl rfl rfl rfl
    · exact hlog _ false rfl rfl rfl rfl rfl

theorem disarmGuard_heard (w : World) (i : RequestId) (r : RunId) (delivery : Delivery) :
    Heard (some i) w (w.disarmGuard i r delivery).2 := by
  have hlog := fun (v : World) (report : GuardReport) => @heard_log w v r (.guardReleased i report)
  cases delivery with
  | lost => exact hlog _ _ rfl rfl rfl rfl rfl
  | unanswered => exact hlog _ _ rfl rfl rfl rfl rfl
  | answered => exact hlog _ _ rfl rfl rfl rfl rfl

theorem guardStatus_heard (w : World) (i : RequestId) (r : RunId) (delivery : Delivery) :
    Heard (some i) w (w.guardStatus i r delivery).2 :=
  heard_log r (.guardStatus i _) rfl rfl rfl rfl rfl

theorem outer_heard {e : External} (h : outer e w = some w') : Heard none w w' := by
  cases e with
  | restartAgent => cases h; exact heard_refl rfl rfl rfl rfl rfl
  | foreignWrite object value => cases h; exact heard_refl rfl rfl rfl rfl rfl
  | fire run outcome landed =>
    have hlog := fun (v : World) => @heard_log w v run (.guardFired outcome (outcome.lands landed))
    simp only [outer,fire] at h
    split at h
    · cases h
    · split at h
      · split at h
        · cases h; exact hlog _ rfl rfl rfl rfl rfl
        · cases h
      · cases h; exact hlog _ rfl rfl rfl rfl rfl

/-- A commit is aborted and leaves the world alone, or leaves exactly its rows and may drop the lock. -/
theorem commit_cases (w : World) (i : RequestId) (r : RunId) (c : Commit) :
    (∃ e, w.commit i r c = (.error e,w)) ∨
    ∃ f, r ∈ w.runs ∧ c.run i (w.isLocked r) (w.files r) = .ok f ∧ w.commit i r c =
      (.ok (),{ w.setFile r f with locks := if c.releases then w.locks.release r else w.locks }) := by
  unfold commit
  split
  · next hr =>
    split
    · next e he => exact .inl ⟨e,rfl⟩
    · next f hf => exact .inr ⟨f,hr,hf,by simp only [setFile]; split <;> rfl⟩
  · exact .inl ⟨_,rfl⟩

theorem rows_setFile (w : World) (r run : RunId) (f : RunFile) :
    ((w.setFile r f).files run).rows = if run = r then f.rows else (w.files run).rows := by
  by_cases h : run = r
  · subst h; simp [setFile]
  · simp [setFile,h]

theorem forRun_dropped {locks : LockTable} {released : Bool} {run : RunId} {key : LockKey}
    (h : (if released then locks.release r else locks).forRun run = some key) : locks.forRun run = some key := by
  split at h
  · rw [LockTable.forRun_release] at h
    split at h
    · cases h
    · exact h
  · exact h

theorem commit_lawful {c : Commit} (hI : Inv w) (hl : Licence i (.commit r c) w) :
    Inv (w.commit i r c).2 ∧ ∀ j, j ≠ i → Rely j w (w.commit i r c).2 := by
  rcases commit_cases w i r c with ⟨e,he⟩ | ⟨f,hr,hf,he⟩
  · rw [he]; exact ⟨hI,fun j _ => .refl j w⟩
  obtain ⟨hphase,hi,hc,_⟩ := hl
  obtain ⟨hreq,hrows⟩ := Commit.run_ok hf
  have hframe := @Commit.rows_frame i (w.files r).rows c
  rw [← hrows] at hframe
  rw [he]
  refine ⟨?_,fun j hj => ?_⟩
  · exact {
      coherent := fun run => by
        show ((w.setFile r f).files run).rows.Coherent
        rw [rows_setFile]
        split
        · rw [hrows]; exact Commit.rows_coherent (hI.coherent r) hc hreq
        · exact hI.coherent run
      locks := fun run key hk => by
        obtain ⟨hkey,hrun⟩ := hI.locks run key (forRun_dropped hk)
        refine ⟨?_,hrun⟩
        show key = ((w.setFile r f).files run).lockKey
        rw [lockKey_eq,rows_setFile]
        split
        · next h =>
          subst h
          rw [hframe.1,hframe.2.1,hframe.2.2.1]; exact hkey
        · exact hkey
      known := fun run k hk => by
        change ((w.setFile r f).files run).rows.spentBy k at hk
        rw [rows_setFile] at hk
        split at hk
        · rw [hrows] at hk
          exact (Commit.rows_spentBy hc hreq hk).elim (fun h => h ▸ hi) (hI.known r k)
        · exact hI.known run k hk
      settlers := fun run k hk => by
        change ((w.setFile r f).files run).rows.settledBy k at hk
        rw [rows_setFile] at hk
        split at hk
        · rw [hrows] at hk
          exact (Commit.rows_settledBy hc hreq hk).elim (fun h => h ▸ hi) (hI.settlers r k)
        · exact hI.settlers run k hk
      openers := fun run a ha => by
        change a ∈ ((w.setFile r f).files run).rows.attempts at ha
        rw [rows_setFile] at ha
        split at ha
        · rw [hrows] at ha
          rcases Commit.rows_openers hc hreq a ha with h | ⟨b,hb,h⟩
          · exact h ▸ hi
          · exact h ▸ hI.openers r b hb
        · exact hI.openers run a ha
      callers := fun run call hcall => by
        change call ∈ ((w.setFile r f).files run).rows.journal at hcall
        rw [rows_setFile] at hcall
        split at hcall
        · rw [hframe.2.2.2.1] at hcall; exact hI.callers r call hcall
        · exact hI.callers run call hcall
      starter := hI.starter }
  · have hserving : w.phase = .serving → (w.phase = .starting i) = False := fun h => by simp [h]
    exact {
      runs := rfl
      requests := List.prefix_rfl
      serving := fun hs => ⟨hs,fun run => by
        show Rows.Rely j (w.files run).rows ((w.setFile r f).files run).rows
        rw [rows_setFile]
        split
        · next h =>
          subst h
          rw [hrows]
          rw [hserving hs] at hc
          exact Commit.rows_rely (hI.coherent _) hc hreq hj
        · exact .refl j _⟩
      alone := fun ha => by
        rcases hphase with hp | hp
        · cases hp.symm.trans ha
        · cases hp.symm.trans ha; exact absurd rfl hj }

theorem acquire_lawful (hI : Inv w) (hr : r ∈ w.runs) :
    Inv (w.acquire r).2 ∧ ((w.phase = .serving ∨ w.phase = .starting i) → ∀ j, j ≠ i → Rely j w (w.acquire r).2) := by
  have hsame : ∀ locks : LockTable, (∀ run key, locks.forRun run = some key → key = (w.files run).lockKey ∧ run ∈ w.runs) →
      Inv { w with locks } ∧ ((w.phase = .serving ∨ w.phase = .starting i) → ∀ j, j ≠ i → Rely j w { w with locks }) := by
    intro locks hlocks
    refine ⟨{ hI with locks := hlocks },fun hphase j hj => ?_⟩
    exact {
      runs := rfl
      requests := List.prefix_rfl
      serving := fun hs => ⟨hs,fun _ => .refl j _⟩
      alone := fun ha => by
        rcases hphase with hp | hp
        · cases hp.symm.trans ha
        · cases hp.symm.trans ha; exact absurd rfl hj }
  unfold acquire
  split
  · split
    · exact hsame w.locks hI.locks
    · split
      · next locks hlocks =>
        refine hsame locks fun run key hk => ?_
        rw [LockTable.forRun_acquire hlocks] at hk
        split at hk
        · next h => cases hk; exact ⟨by rw [h],h ▸ hr⟩
        · exact hI.locks run key hk
      · exact hsame w.locks hI.locks
  · exact hsame w.locks hI.locks

theorem perform_lawful {op : Op} (out : Outside) (hI : Inv w) (hl : Licence i op w) :
    Inv (perform i op out w).2 ∧ ∀ j, j ≠ i → Rely j w (perform i op out w).2 := by
  have hi : ∀ k, some i = some k → k < w.requests.length := fun k hk => by cases hk; exact hl.2.1
  have hheard : ∀ v, Heard (some i) w v → Inv v ∧ ∀ j, j ≠ i → Rely j w v := fun v hv =>
    ⟨hv.inv hi hI,fun j hj => hv.rely (by simpa using Ne.symm hj)⟩
  cases op with
  | commit run c => exact commit_lawful hI hl
  | acquire run => exact ⟨(acquire_lawful (i := i) hI hl.2.2).1,(acquire_lawful hI hl.2.2).2 hl.1⟩
  | mutate run m => exact hheard _ (mutate_heard w i run m _ _)
  | armGuard run guard => exact hheard _ (armGuard_heard w i run guard _)
  | disarmGuard run => exact hheard _ (disarmGuard_heard w i run _)
  | guardStatus run => exact hheard _ (guardStatus_heard w i run _)
  | serve =>
    have hp : w.phase = .starting i := hl.2.2
    refine ⟨{ hI with starter := fun k hk => by cases hk },fun j hj => ?_⟩
    exact {
      runs := rfl
      requests := List.prefix_rfl
      serving := fun hs => by cases hp.symm.trans hs
      alone := fun ha => by cases hp.symm.trans ha; exact absurd rfl hj }
  | _ => exact ⟨hI,fun j _ => .refl j w⟩

theorem enter_lawful {q : Request} (hI : Inv w) (h : enter q w = some (i,w')) :
    Inv w' ∧ ∀ j, j ≠ i → Rely j w w' := by
  have hgrown : ∀ phase, (∀ k, phase = .starting k → (w.requests ++ [q])[k]? = some .startup) →
      Inv { w with requests := w.requests ++ [q], phase := phase } := fun phase hp =>
    { hI with
      known := fun run k hk => by simpa using Nat.lt_succ_of_lt (hI.known run k hk)
      settlers := fun run k hk => by simpa using Nat.lt_succ_of_lt (hI.settlers run k hk)
      openers := fun run a ha => by simpa using Nat.lt_succ_of_lt (hI.openers run a ha)
      callers := fun run call hc k hk => by simpa using Nat.lt_succ_of_lt (hI.callers run call hc k hk)
      starter := hp }
  unfold enter at h
  split at h
  · split at h
    · next hd =>
      cases h
      have hq : q = .startup := by cases q <;> first | rfl | cases ‹Request.run? _ = none›
      refine ⟨hgrown _ fun k hk => by cases hk; simp [hq],fun j _ => ?_⟩
      exact {
        runs := rfl
        requests := List.prefix_append _ _
        serving := fun hs => by cases hd.symm.trans hs
        alone := fun hs => by cases hd.symm.trans hs }
    · cases h
  · split at h
    · next hs =>
      cases h
      have hp : ∀ k, w.phase = .starting k → (w.requests ++ [q])[k]? = some .startup := fun k hk =>
        absurd (hs.1.symm.trans hk) (by simp)
      refine ⟨hgrown w.phase hp,fun j _ => ?_⟩
      exact {
        runs := rfl
        requests := List.prefix_append _ _
        serving := fun _ => ⟨hs.1,fun _ => .refl j _⟩
        alone := fun ha => by cases hs.1.symm.trans ha }
    · cases h

theorem coherent_pristine {f : RunFile} (h : f.pristine) : f.rows.Coherent := by
  obtain ⟨hrun,hconf,_,_,hk,hg,hch,ha,he,_⟩ := h
  have hch' : f.rows.change = none := congrArg (Option.map _) hch
  have hg' : f.rows.guard = none := congrArg (Option.map _) hg
  have ha' : f.rows.attempts = [] := congrArg (List.map _) ha
  have hs : f.rows.state = .preview := congrArg RunColumns.state hrun
  have hh : f.rows.held = false := by simp [RunFile.rows,he,Event.planned]
  have hset : ∀ i, f.rows.settledBy i = false := by simp [RunFile.rows,he,Event.planned]
  exact {
    untouched := fun _ => ⟨hk,hg',hch'⟩
    early := fun _ => .inl (by rw [hs]; rfl)
    ended := fun _ ch hc => absurd (hch'.symm.trans hc) (by simp)
    held := fun hx => absurd (hh.symm.trans hx) (by simp)
    guarded := fun hx => absurd (hs.symm.trans hx) (by simp)
    settled := fun i hi => absurd ((hset i).symm.trans hi) (by simp)
    settledOnce := fun i _ hi => absurd ((hset i).symm.trans hi) (by simp)
    planned := fun ch hc => absurd (hch'.symm.trans hc) (by simp)
    checkpoint := fun k hc => absurd (hk.symm.trans hc) (by simp)
    guard := fun hx => by rw [hg'] at hx; cases hx
    attempts := fun hx => absurd ha' hx
    digest := fun c hc => absurd (hconf.symm.trans hc) (by simp) }

theorem initial_inv (h : Initial w) : Inv w where
  coherent run := coherent_pristine (h.pristine run)
  locks run key hk := by rw [h.locks] at hk; cases hk
  known run i hi := by
    obtain ⟨_,hc,_⟩ := h.pristine run
    simp [Rows.spentBy,RunFile.rows,hc] at hi
  settlers run i hi := by
    obtain ⟨_,_,_,_,_,_,_,_,he,_⟩ := h.pristine run
    simp [RunFile.rows,he,Event.planned] at hi
  openers run a ha := by
    obtain ⟨_,_,_,_,_,_,_,hn,_⟩ := h.pristine run
    simp [RunFile.rows,hn] at ha
  callers run call hc := by
    obtain ⟨_,_,_,_,_,_,_,_,_,hj⟩ := h.pristine run
    rw [hj] at hc; cases hc
  starter i hi := by rw [h.phase] at hi; cases hi

end World

theorem protocol_lawful : protocol.Lawful where
  refl := World.Rely.refl
  trans := .trans
  initial := World.initial_inv
  step a hI hl _ := World.perform_lawful a hI hl
  enter := World.enter_lawful
  outer hI _ h :=
    ⟨(World.outer_heard h).inv (by simp) hI,fun _ => (World.outer_heard h).rely (by simp)⟩
  crash hI _ := { hI with starter := fun k hk => by cases hk }

end LocalPlane
