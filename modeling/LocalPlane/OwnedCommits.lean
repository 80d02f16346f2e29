import LocalPlane.QuietCommits

/-!
# Commits made under ownership

The other half of the commits are made by the request that consumed the confirmation,
by the one that settled the guard, or by a restart that runs alone. Each is licensed,
leaves the rows coherent, and disturbs nothing another request relies on.
-/

set_option linter.dupNamespace false

namespace LocalPlane
namespace Rows

/-- What every commit past the consumed confirmation leaves as it was. -/
structure Kept (i : RequestId) (x x' : Rows) : Prop where
  preview : x'.preview = x.preview
  object : x'.object = x.object
  host : x'.host = x.host
  supported : x'.supported = x.supported
  confirmation : x'.confirmation = x.confirmation
  attempts : x'.attempts = x.attempts
  journal : x'.journal = x.journal
  checkpoint : x.checkpoint.isSome → x'.checkpoint = x.checkpoint
  settledBy : ∀ k, k ≠ i → x'.settledBy k = x.settledBy k
  held : x.held → x'.held
  guard : ∀ g, x.guard = some g → g.settled.isSome → x'.guard = some g
  guarded : x.guard.isSome → x'.guard.isSome
  finished : ∀ ch, x.change = some ch → ch.result ≠ .inFlight → x'.change.map (·.core) = some ch.core
  planned : ∀ ch, x.change = some ch → ∃ ch', x'.change = some ch' ∧ ch'.planned = ch.planned

variable {i j : RequestId} {x x' : Rows}

theorem spentBy_unique (hi : x.spentBy i) (hj : x.spentBy j) : i = j := by
  obtain ⟨c,hc,hci⟩ := (Option.any_eq_true ..).mp hi
  obtain ⟨d,hd,hdj⟩ := (Option.any_eq_true ..).mp hj
  cases hc.symm.trans hd
  simpa using (of_decide_eq_true hci).symm.trans (of_decide_eq_true hdj)

theorem consumed_of_spentBy (h : x.spentBy i) : x.consumed := by
  obtain ⟨c,hc,hi⟩ := (Option.any_eq_true ..).mp h
  simp [consumed,hc,Confirmation.consumed,of_decide_eq_true hi]

namespace Kept

theorem refl (i : RequestId) (x : Rows) : Kept i x x where
  preview := rfl
  object := rfl
  host := rfl
  supported := rfl
  confirmation := rfl
  attempts := rfl
  journal := rfl
  checkpoint _ := rfl
  settledBy _ _ := rfl
  held := id
  guard _ hg _ := hg
  guarded := id
  finished ch hch _ := by rw [hch]; rfl
  planned ch hch := ⟨ch,hch,rfl⟩

theorem run (run : RunColumns) : Kept i x { x with run } := { refl i x with }

theorem amend {run : RunColumns} {u : ChangeColumns → ChangeColumns} (hp : ∀ ch, (u ch).planned = ch.planned)
    (hu : ∀ ch, x.change = some ch → ch.result ≠ .inFlight → (u ch).core = ch.core) :
    Kept i x { x with run, change := x.change.map u } :=
  { refl i x with
    finished := fun ch hch hr => by rw [hch]; exact congrArg some (hu ch hch hr)
    planned := fun ch hch => ⟨u ch,by rw [hch]; rfl,hp ch⟩ }

/-- An amendment that only a Change in flight can meet. -/
theorem amend_inFlight {run : RunColumns} {u : ChangeColumns → ChangeColumns}
    (hp : ∀ ch, (u ch).planned = ch.planned) (hc : ∃ ch, x.change = some ch ∧ ch.result = .inFlight) :
    Kept i x { x with run, change := x.change.map u } := by
  obtain ⟨ch,hch,hr⟩ := hc
  exact amend hp fun c hc hn => absurd (by cases hch.symm.trans hc; exact hr) hn

theorem amendGuard {u : GuardColumns → GuardColumns} {settledBy : RequestId → Bool}
    (hs : ∀ g, x.guard = some g → g.settled = none) (hk : ∀ k, k ≠ i → settledBy k = x.settledBy k) :
    Kept i x { x with guard := x.guard.map u, settledBy } :=
  { refl i x with
    settledBy := hk
    guard := fun g hg hset => by simp [hs g hg] at hset
    guarded := fun hg => by simpa using hg }

theorem consumed (h : Kept i x x') : x'.consumed = x.consumed := by simp [Rows.consumed,h.confirmation]
theorem spentBy (h : Kept i x x') (k : RequestId) : x'.spentBy k = x.spentBy k := by
  simp [Rows.spentBy,h.confirmation]

/-- Another request sees nothing it relies on move, provided it neither owns what moved nor
settled the guard, and a held Change keeps waiting. -/
theorem rely (h : Kept i x x') (hj : j ≠ i)
    (ho : x.spentBy j → x.held = true) (hs : x.settledBy j → x.held → x'.change.map (·.core) = x.change.map (·.core))
    (hw : x.Waiting → x'.Waiting) : Rely j x x' where
  preview := h.preview
  object := h.object
  host := h.host
  supported := h.supported
  spent _ := h.confirmation
  unspent := by rw [h.spentBy]; exact id
  checkpoint := h.checkpoint
  owner hsp hh := by rw [ho hsp] at hh; cases hh
  settler := hs
  settled := by rw [h.settledBy j hj]; exact id
  unsettled := by rw [h.settledBy j hj]; exact id
  held := h.held
  waiting := hw
  guard := h.guard
  guarded := h.guarded
  finished := h.finished
  planned := h.planned
  attempts a ha _ := by rw [h.attempts]; exact ha
  unopened a ha _ := by rw [h.attempts] at ha; exact ha
  calls := ⟨[],h.journal,by simp⟩

theorem rely_owner (h : Kept i x x') (hj : j ≠ i) (ho : x.Owner i) : Rely j x x' :=
  h.rely hj (fun hsp => absurd (spentBy_unique hsp ho.1) hj)
    (fun _ hh => by rw [ho.2] at hh; cases hh) (fun hw => absurd hw.1 (by simp [ho.2]))

theorem rely_held (h : Kept i x x') (hj : j ≠ i) (hh : x.held)
    (hs : x.settledBy j → x'.change.map (·.core) = x.change.map (·.core))
    (hw : x.Waiting → x'.Waiting) : Rely j x x' :=
  h.rely hj (fun _ => hh) (fun hset _ => hs hset) hw

end Kept

/-- Amending a Change whose result stays as it is. -/
theorem Coherent.amend {run : RunColumns} {u : ChangeColumns → ChangeColumns} (h : x.Coherent)
    (hc : x.consumed) (hu : ∀ ch, (u ch).planned = ch.planned ∧ (u ch).result = ch.result)
    (hh : x.held → ∀ ch, x.change = some ch → (u ch).mutation = ch.mutation ∧
      (u ch).hostEffect = ch.hostEffect ∧ (u ch).verification = ch.verification)
    (hs : run.state = x.run.state ∨
      run.state ≠ .guarded ∧ (run.state.terminal = false ∨ x.change = none)) :
    Coherent { x with run, change := x.change.map u } where
  untouched hn := absurd (hc.symm.trans hn) (by simp)
  early hn := absurd (hc.symm.trans hn) (by simp)
  ended he ch hch := by
    obtain ⟨c,hcc,rfl⟩ := Option.map_eq_some_iff.mp hch
    rw [(hu c).2]
    rcases hs with hs | ⟨_,ht | hn⟩
    · exact h.ended (by unfold Rows.ended state at he ⊢; rwa [hs] at he) c hcc
    · simp [Rows.ended,state,ht] at he
    · simp [hn] at hcc
  held hx := by
    obtain ⟨ch,g,hch,hg,h1,h2,h3,h4⟩ := h.held hx
    obtain ⟨e1,e2,e3⟩ := hh hx ch hch
    exact ⟨u ch,g,by simp [hch],hg,e1.trans h1,e2.trans h2,e3.trans h3,h4⟩
  guarded hg := by
    rcases hs with hs | ⟨hs,_⟩
    · obtain ⟨hx,hw⟩ := h.guarded (hs.symm.trans hg)
      refine ⟨hx,fun ch g hch hgd hn => ?_⟩
      obtain ⟨c,hcc,rfl⟩ := Option.map_eq_some_iff.mp hch
      rw [(hu c).2]; exact hw c g hcc hgd hn
    · exact absurd hg hs
  settled := h.settled
  settledOnce := h.settledOnce
  planned ch hch := by
    obtain ⟨c,hcc,rfl⟩ := Option.map_eq_some_iff.mp hch
    rw [(hu c).1]; exact h.planned c hcc
  checkpoint := h.checkpoint
  guard := h.guard
  attempts ha := by
    have hr := h.attempts ha
    unfold recoveryRequired at hr ⊢
    obtain ⟨c,hcc,hr⟩ := (Option.any_eq_true ..).mp hr
    simpa [hcc,(hu c).2] using hr
  digest := h.digest

/-- Moving the Run alone. -/
theorem Coherent.move {run : RunColumns} (h : x.Coherent) (hc : x.consumed)
    (hs : run.state ≠ .guarded ∧ (run.state.terminal = false ∨ x.change = none)) :
    Coherent { x with run } := by
  have hm : Coherent { x with run, change := x.change.map id } :=
    h.amend hc (fun _ => ⟨rfl,rfl⟩) (fun _ _ _ => ⟨rfl,rfl,rfl⟩) (.inr hs)
  simpa using hm

theorem Waiting.amend {run : RunColumns} {u : ChangeColumns → ChangeColumns} (h : x.Waiting)
    (hu : ∀ ch, (u ch).result = ch.result) : Waiting { x with run, change := x.change.map u } := by
  refine ⟨h.1,fun ch g hch hg hn => ?_⟩
  obtain ⟨c,hcc,rfl⟩ := Option.map_eq_some_iff.mp hch
  rw [hu]; exact h.2 c g hcc hg hn

/-- Moving a guard row that is not settled yet, under whatever settlement record. -/
theorem Coherent.amendGuard {u : GuardColumns → GuardColumns} {settledBy : RequestId → Bool} (h : x.Coherent)
    (hu : x.held → ∀ g, x.guard = some g → (u g).armed = g.armed) (hn : ∀ g, x.guard = some g → g.settled = none)
    (hs : settledBy = x.settledBy ∨ (x.guard.isSome ∧ (∀ g, (u g).settled.isSome) ∧
      ∃ i : RequestId, settledBy = fun k => x.settledBy k || decide (i = k))) :
    Coherent { x with guard := x.guard.map u, settledBy } := by
  have hcase : ∃ i : RequestId, ∀ k, settledBy k → x.settledBy k ∨
      (i = k ∧ x.guard.isSome ∧ ∀ g, (u g).settled.isSome) := by
    rcases hs with rfl | ⟨hg,hset,i,rfl⟩
    · exact ⟨0,fun k hk => .inl hk⟩
    · refine ⟨i,fun k hk => ?_⟩
      rcases Bool.or_eq_true_iff.mp hk with hk | hk
      · exact .inl hk
      · exact .inr ⟨of_decide_eq_true hk,hg,hset⟩
  obtain ⟨i,hcase⟩ := hcase
  have hno : ∀ k, x.settledBy k = true → False := by
    intro k hk
    obtain ⟨g,hg,hgs⟩ := h.settled k hk
    simp [hn g hg] at hgs
  exact {
    untouched := fun hc => by
      obtain ⟨h1,h2,h3⟩ := h.untouched hc
      exact ⟨h1,by simp [h2],h3⟩
    early := h.early
    ended := h.ended
    held := fun hx => by
      obtain ⟨ch,g,hch,hg,h1,h2,h3,h4,h5,h6⟩ := h.held hx
      exact ⟨ch,u g,hch,by simp [hg],h1,h2,h3,h4,(hu hx g hg).trans h5,h6⟩
    guarded := fun hg => by
      obtain ⟨hx,hw⟩ := h.guarded hg
      refine ⟨hx,fun ch g hch hgd _ => ?_⟩
      obtain ⟨g',hg',rfl⟩ := Option.map_eq_some_iff.mp hgd
      exact hw ch g' hch hg' (hn g' hg')
    settled := fun k hk => by
      rcases hcase k hk with hk | ⟨_,hg,hset⟩
      · exact (hno k hk).elim
      · obtain ⟨g,hg⟩ := Option.isSome_iff_exists.mp hg
        exact ⟨u g,by simp [hg],hset g⟩
    settledOnce := fun k l hk hl => by
      rcases hcase k hk with hk | ⟨hk,_⟩
      · exact (hno k hk).elim
      · rcases hcase l hl with hl | ⟨hl,_⟩
        · exact (hno l hl).elim
        · exact hk.symm.trans hl
    planned := h.planned
    checkpoint := h.checkpoint
    guard := fun hg => h.guard (by simpa using hg)
    attempts := h.attempts
    digest := h.digest }

theorem Coherent.consumed_of_change (h : x.Coherent) {ch : ChangeColumns} (hc : x.change = some ch) :
    x.consumed := by
  by_contra hn
  rw [(h.untouched (by simpa using hn)).2.2] at hc
  cases hc

theorem Coherent.consumed_of_held (h : x.Coherent) (hh : x.held) : x.consumed := by
  obtain ⟨ch,_,hch,_⟩ := h.held hh
  exact h.consumed_of_change hch

theorem Coherent.attempts_nil (h : x.Coherent) (hc : ∀ ch, x.change = some ch → ch.result = .inFlight) :
    x.attempts = [] := by
  by_contra ha
  obtain ⟨ch,hch,hr⟩ := (Option.any_eq_true ..).mp (h.attempts ha)
  simp [hc ch hch] at hr

/-- Ending a Change that was still under way, and its Run with it. -/
theorem Coherent.finish {run : RunColumns} {u : ChangeColumns → ChangeColumns} (h : x.Coherent)
    {ch : ChangeColumns} (hch : x.change = some ch) (hr : ch.result = .inFlight)
    (hu : (u ch).planned = ch.planned ∧ (u ch).mutation = ch.mutation ∧ (u ch).hostEffect = ch.hostEffect ∧
      (u ch).verification = ch.verification ∧ (u ch).result ≠ .inFlight) (hs : run.state ≠ .guarded) :
    Coherent { x with run, change := x.change.map u } where
  untouched hn := absurd ((h.consumed_of_change hch).symm.trans hn) (by simp)
  early hn := absurd ((h.consumed_of_change hch).symm.trans hn) (by simp)
  ended _ c hc := by
    simp only [hch,Option.map_some,Option.some.injEq] at hc
    exact hc ▸ hu.2.2.2.2
  held hx := by
    obtain ⟨c,g,hc,hg,h1,h2,h3,h4⟩ := h.held hx
    cases hch.symm.trans hc
    exact ⟨u ch,g,by simp [hch],hg,hu.2.1.trans h1,hu.2.2.1.trans h2,hu.2.2.2.1.trans h3,h4⟩
  guarded hg := absurd hg hs
  settled := h.settled
  settledOnce := h.settledOnce
  planned c hc := by
    simp only [hch,Option.map_some,Option.some.injEq] at hc
    rw [← hc,hu.1]; exact h.planned ch hch
  checkpoint := h.checkpoint
  guard := h.guard
  attempts ha := absurd (h.attempts_nil fun c hc => by cases hch.symm.trans hc; exact hr) ha
  digest := h.digest

theorem Coherent.cross {correlation : Correlation} (h : x.Coherent) (hf : x.Fresh i)
    (hk : x.preview.armsRecovery → x.checkpoint.isSome) :
    Coherent { x.enter .applying with change := some (.fresh x.preview i correlation) } where
  untouched hn := absurd ((consumed_of_spentBy hf.1.1).symm.trans hn) (by simp)
  early hn := absurd ((consumed_of_spentBy hf.1.1).symm.trans hn) (by simp)
  ended he := by simp [Rows.ended,state,enter,RunState.terminal] at he
  held hx := absurd (hf.1.2.symm.trans hx) (by simp)
  guarded hg := by cases hg
  settled := h.settled
  settledOnce := h.settledOnce
  planned ch hch := by cases hch; exact ⟨rfl,hk⟩
  checkpoint := h.checkpoint
  guard := h.guard
  attempts ha := absurd (h.attempts_nil fun c hc => by rw [hf.2.1] at hc; cases hc) ha
  digest := h.digest

theorem Coherent.hold {ch : ChangeColumns} {g : GuardColumns} (h : x.Coherent) (hw : x.Writing i ch)
    (hm : ch.mutation = some .written) (he : ch.hostEffect = .written) (hv : ch.verification = .verified)
    (hp : x.preview.isGuarded) (hk : x.checkpoint.isSome) (hg : x.guard = some g) (ha : g.armed) :
    Coherent { x.enter .guarded with held := true } where
  untouched hn := absurd ((consumed_of_spentBy hw.1.1).symm.trans hn) (by simp)
  early hn := absurd ((consumed_of_spentBy hw.1.1).symm.trans hn) (by simp)
  ended he := by simp [Rows.ended,state,enter,RunState.terminal] at he
  held _ := ⟨ch,g,hw.2.1,hg,hm,he,hv,hp,ha,hk⟩
  guarded _ := ⟨rfl,fun c _ hc _ _ => by cases hw.2.1.symm.trans hc; exact hw.2.2⟩
  settled := h.settled
  settledOnce := h.settledOnce
  planned := h.planned
  checkpoint := h.checkpoint
  guard := h.guard
  attempts := h.attempts
  digest := h.digest

theorem Coherent.not_held_of_unconsumed (h : x.Coherent) (hc : x.consumed = false) : x.held = false := by
  by_contra hh
  rw [h.consumed_of_held (by simpa using hh)] at hc
  cases hc

/-- Consuming the confirmation, which nothing was written before. -/
theorem Coherent.spend (h : x.Coherent) (hc : ∃ c, x.confirmation = some c ∧ c.consumedBy = none) :
    Coherent (x.spend i) := by
  obtain ⟨c,hcc,hcn⟩ := hc
  have hu : x.consumed = false := by simp [consumed,hcc,Confirmation.consumed,hcn]
  have hu' : (x.spend i).consumed = true := by simp [Rows.spend,consumed,hcc,Confirmation.consumed]
  have hh := h.not_held_of_unconsumed hu
  obtain ⟨hk,hg,hch⟩ := h.untouched hu
  have hs : (x.spend i).state = .arming ∨ (x.spend i).state = x.state := by
    unfold Rows.spend state
    by_cases ha : x.preview.armsRecovery <;> simp [ha]
  exact {
    untouched := fun hn => absurd (hu'.symm.trans hn) (by simp)
    early := fun hn => absurd (hu'.symm.trans hn) (by simp)
    ended := fun _ ch hc => absurd (hch.symm.trans hc) (by simp)
    held := fun hx => absurd (hh.symm.trans hx) (by simp)
    guarded := fun hg => by
      rcases hs with hs | hs
      · rw [hs] at hg; cases hg
      · exact absurd (hh.symm.trans (h.guarded (hs.symm.trans hg)).1) (by simp)
    settled := h.settled
    settledOnce := h.settledOnce
    planned := h.planned
    checkpoint := h.checkpoint
    guard := h.guard
    attempts := h.attempts
    digest := fun d hd => by
      obtain ⟨e,he,rfl⟩ := Option.map_eq_some_iff.mp hd
      exact h.digest e he }

theorem rely_spend (h : x.Coherent) (hc : ∃ c, x.confirmation = some c ∧ c.consumedBy = none ∧
    c.digest = x.preview.digest) (hj : j ≠ i) : Rely j x (x.spend i) := by
  obtain ⟨c,hcc,hcn,_⟩ := hc
  have hu : x.consumed = false := by simp [consumed,hcc,Confirmation.consumed,hcn]
  have hh := h.not_held_of_unconsumed hu
  have hj' : (x.spend i).spentBy j = false := by simp [Rows.spend,spentBy,hcc,Ne.symm hj]
  exact {
    preview := rfl
    object := rfl
    host := rfl
    supported := rfl
    spent := fun hs => absurd (hu.symm.trans hs) (by simp)
    unspent := fun hs => absurd (hj'.symm.trans hs) (by simp)
    checkpoint := fun _ => rfl
    owner := fun hs => absurd (consumed_of_spentBy hs) (by simp [hu])
    settler := fun _ _ => rfl
    settled := id
    unsettled := id
    held := id
    waiting := id
    guard := fun _ hg _ => hg
    guarded := id
    finished := fun ch hch _ => by rw [show (x.spend i).change = x.change from rfl,hch]; rfl
    planned := fun ch hch => ⟨ch,hch,rfl⟩
    attempts := fun _ ha _ => ha
    unopened := fun _ ha _ => ha
    calls := ⟨[],rfl,by simp⟩ }

theorem Coherent.writeCheckpoint {k : Checkpoint} (h : x.Coherent) (hf : x.Fresh i)
    (hk : x.preview.change = .field k.field k.before k.desired ∧
      k.managementPath = x.preview.managementPath ∧ k.evidence = x.preview.evidence) :
    Coherent { x with checkpoint := some k } where
  untouched hn := absurd ((consumed_of_spentBy hf.1.1).symm.trans hn) (by simp)
  early := h.early
  ended := h.ended
  held hx := by
    obtain ⟨ch,g,h1,h2,h3,h4,h5,h6,h7,_⟩ := h.held hx
    exact ⟨ch,g,h1,h2,h3,h4,h5,h6,h7,rfl⟩
  guarded := h.guarded
  settled := h.settled
  settledOnce := h.settledOnce
  planned ch hch := ⟨(h.planned ch hch).1,fun _ => rfl⟩
  checkpoint k' hk' := by cases hk'; exact hk
  guard hg := ⟨(h.guard hg).1,rfl⟩
  attempts := h.attempts
  digest := h.digest

theorem Coherent.insertGuard {guard : Option GuardColumns} (h : x.Coherent) (hf : x.Fresh i) (hn : x.guard = none)
    (hp : x.preview.isGuarded) (hk : x.checkpoint.isSome) : Coherent { x with guard } where
  untouched hn := absurd ((consumed_of_spentBy hf.1.1).symm.trans hn) (by simp)
  early := h.early
  ended := h.ended
  held hx := absurd (hf.1.2.symm.trans hx) (by simp)
  guarded hg := absurd (hf.1.2.symm.trans (h.guarded hg).1) (by simp)
  settled k hs := by
    obtain ⟨g,hg,_⟩ := h.settled k hs
    rw [hn] at hg; cases hg
  settledOnce := h.settledOnce
  planned := h.planned
  checkpoint := h.checkpoint
  guard _ := ⟨hp,hk⟩
  attempts := h.attempts
  digest := h.digest

end Rows

namespace Commit

open Rows

variable {i j : RequestId} {x : Rows} {c : Commit} {alone : Prop} {locked : Bool}

/-- A verification that follows a rollback is licensed only on a Change still under way. -/
theorem inFlight_of_rollbackVerification (seen : RunState)
    (hl : (startRollbackVerification seen).Licence i alone x) :
    ∃ ch, x.change = some ch ∧ ch.result = .inFlight := by
  rcases hl with ⟨ch,hw,_⟩ | ⟨_,_,hc,_⟩
  · exact ⟨ch,hw.2⟩
  · exact hc

theorem rows_kept (hq : c.quiet = false) (hc : ∀ seen, c ≠ .consumeConfirmation seen)
    (hl : c.Licence i alone x) (hr : c.Requires locked x) : Kept i x (c.rows i x) := by
  have hcredit : ∀ k, k ≠ i → (x.settledBy k || decide (i = k)) = x.settledBy k := by
    intro k hk
    simp [Ne.symm hk]
  cases c with
  | consumeConfirmation seen => exact absurd rfl (hc seen)
  | failCorrelation seen => exact .run _
  | failArming => exact .run _
  | failGuardArming seen => exact .run _
  | startVerification => exact .run _
  | startRollbackVerification seen => exact .run _
  | writeCheckpoint correlation =>
    simp only [rows]
    split
    · exact { Kept.refl i x with checkpoint := fun hk => by simp [hr.1] at hk }
    · exact .refl i x
  | insertGuard =>
    exact { Kept.refl i x with
      guard := fun g hg _ => by rw [hr.1] at hg; cases hg
      guarded := fun hg => by rw [hr.1] at hg; cases hg }
  | recordArmed => exact .amendGuard hr fun _ _ => rfl
  | settleAbandoned report => exact .amendGuard hr fun _ _ => rfl
  | settleGuard report => exact .amendGuard hr hcredit
  | keep evidence => exact .amendGuard hr.2 hcredit
  | cross seen correlation =>
    exact { Kept.refl i x with
      finished := fun ch hch _ => by rw [hr.1] at hch; cases hch
      planned := fun ch hch => by rw [hr.1] at hch; cases hch }
  | hold seen => exact { Kept.run { x.run with state := .guarded } with held := fun _ => rfl }
  | startLapse seen => exact .amend (fun _ => rfl) fun _ _ _ => rfl
  | recordReversal attempt outcome => exact .amend (fun _ => rfl) fun _ _ _ => rfl
  | startRollback seen =>
    obtain ⟨ch,hw,_⟩ := hl
    exact .amend_inFlight (fun _ => rfl) ⟨ch,hw.2⟩
  | beginDispatch =>
    obtain ⟨ch,hw,_⟩ := hl
    exact .amend_inFlight (fun _ => rfl) ⟨ch,hw.2⟩
  | settle outcome =>
    obtain ⟨ch,hw,_⟩ := hl
    exact .amend_inFlight (fun _ => rfl) ⟨ch,hw.2⟩
  | recordVerification read =>
    obtain ⟨ch,hw,_⟩ := hl
    exact .amend_inFlight (fun _ => rfl) ⟨ch,hw.2⟩
  | beginRollback =>
    obtain ⟨ch,hw,_⟩ := hl
    exact .amend_inFlight (fun _ => rfl) ⟨ch,hw.2⟩
  | recordRollback outcome =>
    obtain ⟨ch,hw,_⟩ := hl
    exact .amend_inFlight (fun _ => rfl) ⟨ch,hw.2⟩
  | recordRollbackVerification read =>
    exact .amend_inFlight (fun _ => rfl) (inFlight_of_rollbackVerification .applying hl)
  | finish seen effect state result reason =>
    obtain ⟨ch,hch,hin,_⟩ := hl
    exact .amend_inFlight (fun _ => rfl) ⟨ch,hch,hin⟩
  | interruptDispatch outcome =>
    obtain ⟨_,_,ch,hch,hin,_⟩ := hl
    exact .amend_inFlight (fun _ => rfl) ⟨ch,hch,hin⟩
  | _ => cases hq

/-- A commit of the request that is writing, seen from any other. -/
theorem rely_writing (hq : c.quiet = false) (hc : ∀ seen, c ≠ .consumeConfirmation seen)
    (hl : c.Licence i alone x) (hr : c.Requires locked x) (hj : j ≠ i) (hw : ∃ ch, x.Writing i ch) :
    Rely j x (c.rows i x) := by
  obtain ⟨ch,hw⟩ := hw
  exact (rows_kept hq hc hl hr).rely_owner hj hw.1

theorem rows_coherent (hI : x.Coherent) (hl : c.Licence i alone x) (hr : c.Requires locked x) :
    (c.rows i x).Coherent := by
  cases hq : c.quiet with
  | true => exact (rows_quiet hq hr).coherent hI
  | false =>
    cases c with
    | consumeConfirmation seen =>
      obtain ⟨⟨d,hd,hdn,_⟩,_⟩ := hr
      exact hI.spend ⟨d,hd,hdn⟩
    | failCorrelation seen => exact hI.move (consumed_of_spentBy hl.1.1) ⟨by simp,.inr hl.2.1⟩
    | failArming => exact hI.move (consumed_of_spentBy hl.1.1) ⟨by simp,.inr hl.2.1⟩
    | failGuardArming seen => exact hI.move (consumed_of_spentBy hl.1.1) ⟨by simp,.inr hl.2.1⟩
    | writeCheckpoint correlation =>
      simp only [rows]
      split
      · next hch => exact hI.writeCheckpoint hl ⟨hch,rfl,rfl⟩
      · exact hI
    | insertGuard =>
      obtain ⟨hn,k,hk,_⟩ := hr
      exact hI.insertGuard hl.1 hn hl.2 (by simp [hk])
    | recordArmed =>
      exact hI.amendGuard (fun hx => absurd (hl.1.1.2.symm.trans hx) (by simp)) hr (.inl rfl)
    | settleAbandoned report =>
      exact hI.amendGuard (fun hx => absurd (hl.1.1.2.symm.trans hx) (by simp)) hr (.inl rfl)
    | settleGuard report => exact hI.amendGuard (fun _ _ _ => rfl) hr (.inr ⟨hl.1,fun _ => rfl,i,rfl⟩)
    | keep evidence =>
      obtain ⟨_,g,_,hg,_⟩ := hI.held hl.1
      exact hI.amendGuard (fun _ _ _ => rfl) hr.2 (.inr ⟨by simp [hg],fun _ => rfl,i,rfl⟩)
    | cross seen correlation => exact hI.cross hl.1 hr.2.2.2.1
    | hold seen =>
      obtain ⟨ch,g,hw,hm,he,hv,_,hp,hk,hg,ha,_⟩ := hl
      exact hI.hold hw hm he hv hp hk hg ha
    | beginDispatch =>
      obtain ⟨ch,hw,_⟩ := hl
      exact hI.amend (consumed_of_spentBy hw.1.1) (fun _ => ⟨rfl,rfl⟩) (fun _ _ _ => ⟨rfl,rfl,rfl⟩) (.inl rfl)
    | settle outcome =>
      obtain ⟨ch,hw,_⟩ := hl
      exact hI.amend (consumed_of_spentBy hw.1.1) (fun _ => ⟨rfl,rfl⟩)
        (fun hx => absurd (hw.1.2.symm.trans hx) (by simp)) (.inl rfl)
    | startVerification =>
      obtain ⟨ch,hw,_⟩ := hl
      exact hI.move (consumed_of_spentBy hw.1.1) ⟨by simp,.inl rfl⟩
    | recordVerification read =>
      obtain ⟨ch,hw,_⟩ := hl
      exact hI.amend (consumed_of_spentBy hw.1.1) (fun _ => ⟨rfl,rfl⟩)
        (fun hx => absurd (hw.1.2.symm.trans hx) (by simp)) (.inl rfl)
    | startRollback seen =>
      obtain ⟨ch,hw,_⟩ := hl
      exact hI.amend (consumed_of_spentBy hw.1.1) (fun _ => ⟨rfl,rfl⟩) (fun _ _ _ => ⟨rfl,rfl,rfl⟩)
        (.inr ⟨by simp [enter],.inl rfl⟩)
    | startLapse seen =>
      exact hI.amend (hI.consumed_of_held hl.1) (fun _ => ⟨rfl,rfl⟩) (fun _ _ _ => ⟨rfl,rfl,rfl⟩)
        (.inr ⟨by simp [enter],.inl rfl⟩)
    | beginRollback =>
      obtain ⟨ch,hw,_⟩ := hl
      exact hI.amend (consumed_of_spentBy hw.1.1) (fun _ => ⟨rfl,rfl⟩) (fun _ _ _ => ⟨rfl,rfl,rfl⟩) (.inl rfl)
    | recordRollback outcome =>
      obtain ⟨ch,hw,_⟩ := hl
      exact hI.amend (consumed_of_spentBy hw.1.1) (fun _ => ⟨rfl,rfl⟩) (fun _ _ _ => ⟨rfl,rfl,rfl⟩) (.inl rfl)
    | recordReversal attempt outcome =>
      exact hI.amend (hI.consumed_of_held hl.1) (fun _ => ⟨rfl,rfl⟩) (fun _ _ _ => ⟨rfl,rfl,rfl⟩) (.inl rfl)
    | startRollbackVerification seen =>
      obtain ⟨ch,hch,_⟩ := inFlight_of_rollbackVerification seen hl
      exact hI.move (hI.consumed_of_change hch) ⟨by simp,.inl rfl⟩
    | recordRollbackVerification read =>
      obtain ⟨ch,hch,_⟩ := inFlight_of_rollbackVerification .applying hl
      exact hI.amend (hI.consumed_of_change hch) (fun _ => ⟨rfl,rfl⟩) (fun _ _ _ => ⟨rfl,rfl,rfl⟩) (.inl rfl)
    | interruptDispatch outcome =>
      obtain ⟨_,_,ch,hch,_,hm,_⟩ := hl
      refine hI.amend (hI.consumed_of_change hch) (fun _ => ⟨rfl,rfl⟩) (fun hx => ?_) (.inl rfl)
      obtain ⟨d,_,hd,_,hdm,_⟩ := hI.held hx
      cases hch.symm.trans hd
      exact absurd (hm.symm.trans hdm) (by simp)
    | finish seen effect state result reason =>
      obtain ⟨ch,hch,hin,_,_,he⟩ := hl
      exact hI.finish hch hin ⟨rfl,rfl,rfl,rfl,by cases he <;> simp⟩ (by cases he <;> simp [conclude])
    | _ => cases hq

/-- Moving a guard row leaves a held Change waiting, its Change being untouched. -/
theorem waiting_guard {u : GuardColumns → GuardColumns} {settledBy : RequestId → Bool}
    (hn : ∀ g, x.guard = some g → g.settled = none) (hw : x.Waiting) :
    Waiting { x with guard := x.guard.map u, settledBy } := by
  refine ⟨hw.1,fun ch g hch hg _ => ?_⟩
  obtain ⟨g',hg',rfl⟩ := Option.map_eq_some_iff.mp hg
  exact hw.2 ch g' hch hg' (hn g' hg')

/-- What no other request can tell from the commit not having been made. -/
theorem rows_rely (hI : x.Coherent) (hl : c.Licence i False x) (hr : c.Requires locked x) (hj : j ≠ i) :
    Rely j x (c.rows i x) := by
  cases hq : c.quiet with
  | true =>
    cases c with
    | interruptAttempt openedBy unknown => exact hl.elim
    | _ => exact (rows_quiet hq hr).rely hj
  | false =>
    have hsettler : ∀ k, x.settledBy k → x.settledBy i → k = i := fun k => hI.settledOnce k i
    cases c with
    | consumeConfirmation seen => exact rely_spend hI hr.1 hj
    | finish seen effect state result reason =>
      have hk := rows_kept hq (by simp) hl hr
      obtain ⟨ch,hch,hin,_,ho | ⟨hx,hs⟩ | ha,_⟩ := hl
      · exact hk.rely_owner hj ho
      · refine hk.rely_held hj hx (fun hjs => absurd (hsettler j hjs hs) hj) fun hw => ⟨hw.1,fun c g _ hg hn => ?_⟩
        obtain ⟨g',hg',hset⟩ := hI.settled i hs
        cases hg'.symm.trans hg
        simp [hn] at hset
      · exact ha.elim
    | settleGuard report =>
      have hk := rows_kept hq (by simp) hl hr
      obtain ⟨_,_,_,⟨ho,_⟩ | hx | ha⟩ := hl
      · exact hk.rely_owner hj ho
      · exact hk.rely_held hj hx (fun _ => rfl) fun hw => waiting_guard hr hw
      · exact ha.elim
    | keep evidence =>
      exact (rows_kept hq (by simp) hl hr).rely_held hj hl.1 (fun _ => rfl) fun hw => waiting_guard hr.2 hw
    | startLapse seen =>
      exact (rows_kept hq (by simp) hl hr).rely_held hj hl.1
        (fun _ => by simp only [rows,amend,enter,Option.map_map]; rfl) fun hw => hw.amend fun _ => rfl
    | recordReversal attempt outcome =>
      exact (rows_kept hq (by simp) hl hr).rely_held hj hl.1
        (fun _ => by simp only [rows,amend,Option.map_map]; rfl) fun hw => hw.amend fun _ => rfl
    | startRollbackVerification seen =>
      have hk := rows_kept hq (by simp) hl hr
      rcases hl with ⟨ch,hw,_⟩ | ⟨hx,_⟩
      · exact hk.rely_owner hj hw.1
      · exact hk.rely_held hj hx (fun _ => rfl) id
    | recordRollbackVerification read =>
      have hk := rows_kept hq (by simp) hl hr
      rcases hl with ⟨ch,hw,_⟩ | ⟨hx,hs | ha,_⟩
      · exact hk.rely_owner hj hw.1
      · exact hk.rely_held hj hx (fun hjs => absurd (hsettler j hjs hs) hj) fun hw => hw.amend fun _ => rfl
      · exact ha.elim
    | interruptDispatch outcome => exact hl.1.elim
    | failCorrelation seen => exact (rows_kept hq (by simp) hl hr).rely_owner hj hl.1
    | failArming => exact (rows_kept hq (by simp) hl hr).rely_owner hj hl.1
    | failGuardArming seen => exact (rows_kept hq (by simp) hl hr).rely_owner hj hl.1
    | writeCheckpoint correlation => exact (rows_kept hq (by simp) hl hr).rely_owner hj hl.1
    | cross seen correlation => exact (rows_kept hq (by simp) hl hr).rely_owner hj hl.1.1
    | insertGuard => exact (rows_kept hq (by simp) hl hr).rely_owner hj hl.1.1
    | recordArmed => exact (rows_kept hq (by simp) hl hr).rely_owner hj hl.1.1
    | settleAbandoned report => exact (rows_kept hq (by simp) hl hr).rely_owner hj hl.1.1
    | hold seen =>
      have hk := rows_kept hq (by simp) hl hr
      obtain ⟨_,_,hw,_⟩ := hl
      exact hk.rely_owner hj hw.1
    | beginDispatch => exact rely_writing hq (by simp) hl hr hj (by obtain ⟨ch,hw,_⟩ := hl; exact ⟨ch,hw⟩)
    | settle outcome => exact rely_writing hq (by simp) hl hr hj (by obtain ⟨ch,hw,_⟩ := hl; exact ⟨ch,hw⟩)
    | startVerification => exact rely_writing hq (by simp) hl hr hj (by obtain ⟨ch,hw,_⟩ := hl; exact ⟨ch,hw⟩)
    | recordVerification read => exact rely_writing hq (by simp) hl hr hj (by obtain ⟨ch,hw,_⟩ := hl; exact ⟨ch,hw⟩)
    | startRollback seen => exact rely_writing hq (by simp) hl hr hj (by obtain ⟨ch,hw,_⟩ := hl; exact ⟨ch,hw⟩)
    | beginRollback => exact rely_writing hq (by simp) hl hr hj (by obtain ⟨ch,hw,_⟩ := hl; exact ⟨ch,hw⟩)
    | recordRollback outcome => exact rely_writing hq (by simp) hl hr hj (by obtain ⟨ch,hw,_⟩ := hl; exact ⟨ch,hw⟩)
    | _ => cases hq

end Commit
end LocalPlane
