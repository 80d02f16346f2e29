import LocalPlane.Protocol

/-!
# Commits that move no ownership

Half of the engine's commits grant authority, wait, refuse, cancel or work on a
recovery attempt. They leave the Change, the checkpoint and the guard alone, consume
nothing and end nothing, so every other request may ignore them.
-/

set_option linter.dupNamespace false

namespace LocalPlane

/-- Whose recovery attempt a commit works on; its own request's unless a restart interprets it. -/
def Commit.opener (i : RequestId) : Commit → RequestId
  | .interruptAttempt openedBy _ => openedBy
  | _ => i

def Commit.quiet : Commit → Bool
  | .confirm .. | .grantOverride | .cancel | .awaitConfirmation _ | .refuseApply | .targetCorrelated
  | .admitRecovery | .refuseKeep | .grantRecovery | .openAttempt | .recordEvidence _ | .spendRecovery _
  | .recordRecovery _ | .recordRecoveryVerification _ | .completeRecovery _ | .settleRetry _
  | .refuseRecovery _ | .resolve .. | .interruptAttempt .. => true
  | _ => false

/-- Nothing but the state before the boundary, unspent authority and the attempts one request
opened differs. -/
structure Rows.Quiet (o : RequestId) (x x' : Rows) : Prop where
  preview : x'.preview = x.preview
  object : x'.object = x.object
  host : x'.host = x.host
  supported : x'.supported = x.supported
  checkpoint : x'.checkpoint = x.checkpoint
  guard : x'.guard = x.guard
  change : x'.change = x.change
  confirmation : x'.confirmation = x.confirmation ∨ (x.confirmation = none ∧
    ∃ c, x'.confirmation = some c ∧ c.consumedBy = none ∧ c.digest = x.preview.digest)
  held : x'.held = x.held
  settledBy : x'.settledBy = x.settledBy
  journal : x'.journal = x.journal
  state : x'.state = x.state ∨ x'.state = .awaitingConfirmation ∨ x'.state = .cancelled
  recovering : x'.attempts ≠ [] → x.attempts ≠ [] ∨ x.recoveryRequired
  attempts : ∀ a ∈ x.attempts, a.openedBy ≠ o → a ∈ x'.attempts
  unopened : ∀ a ∈ x'.attempts, a.openedBy ≠ o → a ∈ x.attempts

namespace Rows.Quiet

variable {o j : RequestId} {x x' : Rows}

theorem consumed (h : Quiet o x x') : x'.consumed = x.consumed := by
  rcases h.confirmation with hc | ⟨hn,c,hc,hu,_⟩
  · simp [Rows.consumed,hc]
  · simp [Rows.consumed,hn,hc,Confirmation.consumed,hu]

theorem spentBy (h : Quiet o x x') (k : RequestId) : x'.spentBy k = x.spentBy k := by
  rcases h.confirmation with hc | ⟨hn,c,hc,hu,_⟩
  · simp [Rows.spentBy,hc]
  · simp [Rows.spentBy,hn,hc,hu]

theorem ended (h : Quiet o x x') (he : x'.ended = true) : x.ended = true := by
  rcases h.state with hs | hs | hs
  · simpa [Rows.ended,hs] using he
  · simp [Rows.ended,hs,RunState.terminal] at he
  · simp [Rows.ended,hs] at he

theorem waiting (h : Quiet o x x') (hw : x.Waiting) : x'.Waiting := by
  unfold Waiting; rw [h.held,h.change,h.guard]; exact hw

theorem coherent (h : Quiet o x x') (hI : x.Coherent) : x'.Coherent where
  untouched hc := by
    rw [h.checkpoint,h.guard,h.change]; exact hI.untouched (h.consumed ▸ hc)
  early hc := by
    rcases h.state with hs | hs | hs
    · rw [hs]; exact hI.early (h.consumed ▸ hc)
    · exact .inl (by rw [hs]; rfl)
    · exact .inr hs
  ended he ch hch := hI.ended (h.ended he) ch (h.change ▸ hch)
  held hh := by
    rw [h.change,h.guard,h.preview,h.checkpoint]; exact hI.held (h.held ▸ hh)
  guarded hg := by
    rcases h.state with hs | hs | hs
    · exact h.waiting (hI.guarded (hs ▸ hg))
    · rw [hs] at hg; cases hg
    · rw [hs] at hg; cases hg
  settled k hk := by rw [h.guard]; exact hI.settled k (h.settledBy ▸ hk)
  settledOnce k l hk hl := hI.settledOnce k l (h.settledBy ▸ hk) (h.settledBy ▸ hl)
  planned ch hch := by
    rw [h.preview,h.checkpoint]; exact hI.planned ch (h.change ▸ hch)
  checkpoint k hk := by rw [h.preview]; exact hI.checkpoint k (h.checkpoint ▸ hk)
  guard hg := by rw [h.preview,h.checkpoint]; exact hI.guard (h.guard ▸ hg)
  attempts ha := by
    have hr : x'.recoveryRequired = x.recoveryRequired := by simp [recoveryRequired,h.change]
    rw [hr]
    exact (h.recovering ha).elim hI.attempts id
  digest c hc := by
    rw [h.preview]
    rcases h.confirmation with he | ⟨_,d,hd,_,hdig⟩
    · exact hI.digest c (he ▸ hc)
    · rw [hd] at hc; cases hc; exact hdig

theorem rely (h : Quiet o x x') (hj : j ≠ o) : Rely j x x' where
  preview := h.preview
  object := h.object
  host := h.host
  supported := h.supported
  spent hc := by
    rcases h.confirmation with he | ⟨hn,_⟩
    · exact he
    · simp [Rows.consumed,hn] at hc
  unspent := by rw [h.spentBy]; exact id
  checkpoint _ := h.checkpoint
  owner _ hh := ⟨h.change,h.checkpoint,h.guard,h.held.trans hh,h.ended⟩
  settler _ _ := by rw [h.change]
  settled := by rw [h.settledBy]; exact id
  unsettled := by rw [h.settledBy]; exact id
  held hh := h.held.trans hh
  waiting := h.waiting
  guard g hg _ := h.guard.trans hg
  guarded hg := by rw [h.guard]; exact hg
  finished ch hch _ := by rw [h.change,hch]; rfl
  planned ch hch := ⟨ch,h.change.trans hch,rfl⟩
  attempts a ha ho := h.attempts a ha (ho ▸ hj)
  unopened a ha ho := h.unopened a ha (ho ▸ hj)
  calls := ⟨[],h.journal,by simp⟩

theorem refl (o : RequestId) (x : Rows) : Quiet o x x where
  preview := rfl
  object := rfl
  host := rfl
  supported := rfl
  checkpoint := rfl
  guard := rfl
  change := rfl
  confirmation := .inl rfl
  held := rfl
  settledBy := rfl
  journal := rfl
  state := .inl rfl
  recovering := .inl
  attempts _ h _ := h
  unopened _ h _ := h

theorem reattempt {update : AttemptColumns → AttemptColumns}
    (hu : ∀ a, (update a).openedBy = a.openedBy) : Quiet o x (x.reattempt o update) := by
  unfold Rows.reattempt
  split
  · exact refl o x
  · next a hf =>
    have ho : a.openedBy = o := by simpa using List.find?_some hf
    refine { refl o x with recovering := ?_, attempts := ?_, unopened := ?_ }
    · exact fun _ => .inl (List.ne_nil_of_mem (List.mem_of_find?_eq_some hf))
    · exact fun b hb hbo => List.mem_map.mpr ⟨b,hb,by simp [hbo]⟩
    · intro b hb hbo
      obtain ⟨c,hc,rfl⟩ := List.mem_map.mp hb
      split at hbo
      · exact absurd ((hu a).trans ho) hbo
      · simp only [*,if_false]

theorem insert {a : AttemptColumns} (ha : a.openedBy = o) (hr : x.recoveryRequired = true) :
    Quiet o x { x with attempts := x.attempts ++ [a] } := by
  refine { refl o x with recovering := fun _ => .inr hr, attempts := ?_, unopened := ?_ }
  · exact fun b hb _ => List.mem_append_left _ hb
  · intro b hb hbo
    rcases List.mem_append.mp hb with hb | hb
    · exact hb
    · exact absurd (by simpa [List.mem_singleton.mp hb] using ha) hbo

theorem of_grants {y : Rows} (h : Quiet o y x') (hy : ∃ grants, y = { x with grants }) :
    Quiet o x x' := by
  obtain ⟨grants,rfl⟩ := hy
  exact { h with }

end Rows.Quiet

open Rows Rows.Quiet in
theorem Commit.rows_quiet {i : RequestId} {locked : Bool} {x : Rows} {c : Commit} (hq : c.quiet)
    (hr : c.Requires locked x) : Quiet (c.opener i) x (c.rows i x) := by
  cases c with
  | confirm method typed => exact { Quiet.refl i x with confirmation := .inr ⟨hr,_,rfl,rfl,rfl⟩ }
  | grantOverride => exact { Quiet.refl i x with }
  | cancel => exact { Quiet.refl i x with state := .inr (.inr rfl) }
  | awaitConfirmation seen => exact { Quiet.refl i x with state := .inr (.inl rfl) }
  | grantRecovery => exact { Quiet.refl i x with }
  | openAttempt => exact .insert rfl hr.1
  | resolve read statement note => exact .insert rfl hr.1
  | spendRecovery correlation =>
    simp only [Commit.rows]
    split
    · exact .refl i x
    · exact of_grants (reattempt fun _ => rfl) ⟨_,rfl⟩
  | recordEvidence read => exact .reattempt fun _ => rfl
  | recordRecovery outcome => exact .reattempt fun _ => rfl
  | recordRecoveryVerification read => exact .reattempt fun _ => rfl
  | completeRecovery outcome => exact .reattempt fun _ => rfl
  | settleRetry outcome => exact .reattempt fun _ => rfl
  | refuseRecovery code => exact .reattempt fun _ => rfl
  | interruptAttempt openedBy unknown => exact .reattempt fun _ => rfl
  | refuseApply => exact .refl i x
  | targetCorrelated => exact .refl i x
  | admitRecovery => exact .refl i x
  | refuseKeep => exact .refl i x
  | _ => cases hq

end LocalPlane
