import LocalPlane.DispatchRecord
import LocalPlane.Scenarios

/-!
# What every dispatch was authorised by

A dispatch belongs to the request that consumed a confirmation of the same Run: an apply and
the rollback it may go on to rest on the one apply confirmation, a recovery retry on a
confirmation of its own. No request dispatches for one purpose twice, and a consumption that
is refused spends nothing.
-/

set_option linter.dupNamespace false

namespace LocalPlane

open Interleaved

def Call.isBy (j : RequestId) (p : Purpose) : Call → Bool
  | .mutated i q _ _ _ => i = j && q = p
  | _ => false

/-- What the confirmations of a Run say of those who consumed them. -/
structure Rows.Authorised (x : Rows) : Prop where
  override : ∀ j, x.spentBy j → x.preview.requiresOverride →
    ∃ o, x.override = some o ∧ o.consumedBy = some (.apply j) ∧ o.digest = x.preview.digest
  retried : ∀ a ∈ x.attempts, ∀ j, a.mutationAttempt = some (.retry j) → ∃ g ∈ x.grants, g.consumedBy = some (.retry j)
  granted : ∀ g ∈ x.grants, g.digest = x.preview.digest

/-- Every dispatch that was made, with what it rests on. -/
structure Rows.Audited (x : Rows) : Prop where
  once : ∀ j p, x.journal.countP (·.isBy j p) ≤ 1
  spent : ∀ j p a o l, .mutated j p a o l ∈ x.journal → p ≠ .recovery → x.spentBy j
  granted : ∀ j a o l, .mutated j .recovery a o l ∈ x.journal → ∃ g ∈ x.grants, g.consumedBy = some (.retry j)

namespace Commit

variable {i : RequestId} {alone : Prop} {locked : Bool} {x : Rows} {c : Commit}

theorem reattempt_authority (x : Rows) (openedBy : RequestId) (update : AttemptColumns → AttemptColumns) :
    (x.reattempt openedBy update).confirmation = x.confirmation ∧ (x.reattempt openedBy update).override = x.override ∧
      (x.reattempt openedBy update).grants = x.grants := by
  unfold Rows.reattempt
  split <;> exact ⟨rfl,rfl,rfl⟩

/-- The authorities of an apply are written where they are granted and where they are consumed, and nowhere else. -/
theorem rows_authority : (∃ method typed, c = .confirm method typed) ∨ c = .grantOverride ∨ (∃ seen, c = .consumeConfirmation seen) ∨
    (c.rows i x).confirmation = x.confirmation ∧ (c.rows i x).override = x.override := by
  cases c with
  | confirm method typed => exact .inl ⟨_,_,rfl⟩
  | grantOverride => exact .inr (.inl rfl)
  | consumeConfirmation seen => exact .inr (.inr (.inl ⟨_,rfl⟩))
  | writeCheckpoint correlation => refine .inr (.inr (.inr ?_)); simp only [rows]; split <;> exact ⟨rfl,rfl⟩
  | spendRecovery correlation =>
    refine .inr (.inr (.inr ?_))
    simp only [rows]
    split
    · exact ⟨rfl,rfl⟩
    · exact ⟨(reattempt_authority ..).1,(reattempt_authority ..).2.1⟩
  | recordEvidence read => exact .inr (.inr (.inr ⟨(reattempt_authority ..).1,(reattempt_authority ..).2.1⟩))
  | recordRecovery outcome => exact .inr (.inr (.inr ⟨(reattempt_authority ..).1,(reattempt_authority ..).2.1⟩))
  | recordRecoveryVerification read => exact .inr (.inr (.inr ⟨(reattempt_authority ..).1,(reattempt_authority ..).2.1⟩))
  | completeRecovery outcome => exact .inr (.inr (.inr ⟨(reattempt_authority ..).1,(reattempt_authority ..).2.1⟩))
  | settleRetry outcome => exact .inr (.inr (.inr ⟨(reattempt_authority ..).1,(reattempt_authority ..).2.1⟩))
  | refuseRecovery code => exact .inr (.inr (.inr ⟨(reattempt_authority ..).1,(reattempt_authority ..).2.1⟩))
  | interruptAttempt openedBy unknown => exact .inr (.inr (.inr ⟨(reattempt_authority ..).1,(reattempt_authority ..).2.1⟩))
  | _ => exact .inr (.inr (.inr ⟨rfl,rfl⟩))

theorem override_kept (hx : x.Authorised) (hl : c.Licence i alone x) (hr : c.Requires locked x) (j : RequestId)
    (hj : (c.rows i x).spentBy j) (hp : x.preview.requiresOverride) :
    ∃ o, (c.rows i x).override = some o ∧ o.consumedBy = some (.apply j) ∧ o.digest = x.preview.digest := by
  rcases rows_authority (i := i) (x := x) (c := c) with ⟨method,typed,rfl⟩ | rfl | ⟨seen,rfl⟩ | ⟨hconfirmation,hoverride⟩
  · simp [Rows.spentBy,rows] at hj
  · obtain ⟨o,ho,_⟩ := hx.override j hj hp
    have hnone : x.override = none := hr
    rw [hnone] at ho
    cases ho
  · obtain ⟨⟨d,hd,_⟩,hoverride⟩ := hr
    obtain ⟨o,ho,_,hdigest⟩ := hoverride hp
    have hij : i = j := by simpa [Rows.spentBy,rows,Rows.spend,hd] using hj
    refine ⟨{ o with consumedBy := some (.apply i) },?_,by rw [hij],hdigest⟩
    simp [rows,Rows.spend,hp,ho]
  · have hspent : x.spentBy j := by simpa [Rows.spentBy,hconfirmation] using hj
    rw [hoverride]
    exact hx.override j hspent hp

/-- A consumed recovery confirmation is never touched again. -/
theorem grants_kept {g : Confirmation} (hg : g ∈ x.grants) (hc : g.consumed = true) : g ∈ (c.rows i x).grants := by
  cases c with
  | grantRecovery => exact List.mem_append_left _ hg
  | spendRecovery correlation =>
    simp only [rows]
    split
    · exact hg
    · next grant hgrant =>
      rw [(reattempt_authority ..).2.2]
      refine List.mem_map.mpr ⟨g,hg,if_neg ?_⟩
      rintro rfl
      have hopen := List.find?_some hgrant
      simp [hc] at hopen
  | writeCheckpoint correlation => simp only [rows]; split <;> exact hg
  | recordEvidence read => rw [rows,(reattempt_authority ..).2.2]; exact hg
  | recordRecovery outcome => rw [rows,(reattempt_authority ..).2.2]; exact hg
  | recordRecoveryVerification read => rw [rows,(reattempt_authority ..).2.2]; exact hg
  | completeRecovery outcome => rw [rows,(reattempt_authority ..).2.2]; exact hg
  | settleRetry outcome => rw [rows,(reattempt_authority ..).2.2]; exact hg
  | refuseRecovery code => rw [rows,(reattempt_authority ..).2.2]; exact hg
  | interruptAttempt openedBy unknown => rw [rows,(reattempt_authority ..).2.2]; exact hg
  | _ => exact hg

theorem consumed_of_retry {g : Confirmation} {j : RequestId} (h : g.consumedBy = some (.retry j)) : g.consumed = true := by
  simp [Confirmation.consumed,h]

/-- An attempt that a commit leaves comes from one it found with the same dispatch and authority, or has no dispatch, or was
just authorised. -/
theorem attempts_from {a : AttemptColumns} (ha : a ∈ (c.rows i x).attempts) :
    (∃ b ∈ x.attempts, a.mutationAttempt = b.mutationAttempt ∧ a.authority = b.authority) ∨ a.mutationAttempt = none ∨
      a.mutationAttempt = some (.retry i) ∧
        ∃ g ∈ (c.rows i x).grants, a.authority = some g.grantedBy ∧ g.consumedBy = some (.retry i) := by
  have hre : ∀ {y : Rows} {openedBy : RequestId} {update : AttemptColumns → AttemptColumns}, a ∈ (y.reattempt openedBy update).attempts →
      (∀ b, (update b).mutationAttempt = b.mutationAttempt ∧ (update b).authority = b.authority) →
      ∃ b ∈ y.attempts, a.mutationAttempt = b.mutationAttempt ∧ a.authority = b.authority := by
    intro y openedBy update hmem hupdate
    unfold Rows.reattempt at hmem
    split at hmem
    · exact ⟨a,hmem,rfl,rfl⟩
    · next found hfound =>
      obtain ⟨b,hb,rfl⟩ := List.mem_map.mp hmem
      split
      · exact ⟨found,List.mem_of_find?_eq_some hfound,hupdate found⟩
      · exact ⟨b,hb,rfl,rfl⟩
  cases c with
  | openAttempt =>
    rcases List.mem_append.mp ha with ha | ha
    · exact .inl ⟨a,ha,rfl,rfl⟩
    · rw [List.mem_singleton.mp ha]
      exact .inr (.inl rfl)
  | resolve read statement note =>
    rcases List.mem_append.mp ha with ha | ha
    · exact .inl ⟨a,ha,rfl,rfl⟩
    · rw [List.mem_singleton.mp ha]
      exact .inr (.inl rfl)
  | spendRecovery correlation =>
    simp only [rows] at ha ⊢
    split at ha
    · exact .inl ⟨a,ha,rfl,rfl⟩
    · next grant hgrant =>
      have hspent : ∃ g ∈ (x.grants.map fun g => if g = grant then { g with consumedBy := some (.retry i) } else g),
          grant.grantedBy = g.grantedBy ∧ g.consumedBy = some (.retry i) :=
        ⟨_,List.mem_map.mpr ⟨grant,List.mem_of_find?_eq_some hgrant,if_pos rfl⟩,rfl,rfl⟩
      unfold Rows.reattempt at ha
      split at ha
      · exact .inl ⟨a,ha,rfl,rfl⟩
      · obtain ⟨b,hb,rfl⟩ := List.mem_map.mp ha
        split
        · refine .inr (.inr ⟨rfl,?_⟩)
          rw [(reattempt_authority ..).2.2]
          obtain ⟨g,hg,hby,hconsumed⟩ := hspent
          exact ⟨g,hg,congrArg some hby,hconsumed⟩
        · exact .inl ⟨b,hb,rfl,rfl⟩
  | writeCheckpoint correlation => simp only [rows] at ha; split at ha <;> exact .inl ⟨a,ha,rfl,rfl⟩
  | recordEvidence read => exact .inl (hre ha fun _ => ⟨rfl,rfl⟩)
  | recordRecovery outcome => exact .inl (hre ha fun _ => ⟨rfl,rfl⟩)
  | recordRecoveryVerification read => exact .inl (hre ha fun _ => ⟨rfl,rfl⟩)
  | completeRecovery outcome => exact .inl (hre ha fun _ => ⟨rfl,rfl⟩)
  | settleRetry outcome => exact .inl (hre ha fun _ => ⟨rfl,rfl⟩)
  | refuseRecovery code => exact .inl (hre ha fun _ => ⟨rfl,rfl⟩)
  | interruptAttempt openedBy unknown => exact .inl (hre ha fun _ => ⟨rfl,rfl⟩)
  | _ => exact .inl ⟨a,ha,rfl,rfl⟩

/-- Every recovery confirmation names the plan of its Run. -/
theorem grants_digest (h : ∀ g ∈ x.grants, g.digest = x.preview.digest) : ∀ g ∈ (c.rows i x).grants, g.digest = x.preview.digest := by
  cases c with
  | grantRecovery =>
    intro g hg
    rcases List.mem_append.mp hg with hg | hg
    · exact h g hg
    · rw [List.mem_singleton.mp hg]
  | spendRecovery correlation =>
    simp only [rows]
    split
    · exact h
    · next grant hgrant =>
      rw [(reattempt_authority ..).2.2]
      intro g hg
      obtain ⟨b,hb,rfl⟩ := List.mem_map.mp hg
      split <;> exact h b hb
  | writeCheckpoint correlation => simp only [rows]; split <;> exact h
  | recordEvidence read => rw [rows,(reattempt_authority ..).2.2]; exact h
  | recordRecovery outcome => rw [rows,(reattempt_authority ..).2.2]; exact h
  | recordRecoveryVerification read => rw [rows,(reattempt_authority ..).2.2]; exact h
  | completeRecovery outcome => rw [rows,(reattempt_authority ..).2.2]; exact h
  | settleRetry outcome => rw [rows,(reattempt_authority ..).2.2]; exact h
  | refuseRecovery code => rw [rows,(reattempt_authority ..).2.2]; exact h
  | interruptAttempt openedBy unknown => rw [rows,(reattempt_authority ..).2.2]; exact h
  | _ => exact h

theorem authorised (hx : x.Authorised) (hl : c.Licence i alone x) (hr : c.Requires locked x) : (c.rows i x).Authorised := by
  have hpreview : (c.rows i x).preview = x.preview := rows_frame.2.2.1
  refine ⟨fun j hj hp => ?_,fun a ha j hj => ?_,?_⟩
  · rw [hpreview] at hp ⊢
    exact override_kept hx hl hr j hj hp
  · rcases attempts_from ha with ⟨b,hb,hsame,_⟩ | hnone | ⟨hown,g,hg,_,hconsumed⟩
    · obtain ⟨g,hg,hconsumed⟩ := hx.retried b hb j (hsame.symm.trans hj)
      exact ⟨g,grants_kept hg (consumed_of_retry hconsumed),hconsumed⟩
    · rw [hnone] at hj
      cases hj
    · rw [hown] at hj
      cases hj
      exact ⟨g,hg,hconsumed⟩
  · rw [hpreview]
    exact grants_digest hx.granted

end Commit

section Audit

variable {i j : RequestId} {p : Purpose} {x : Rows} {new : List Call}

theorem countP_quiet (h : ∀ call ∈ new, call.dispatch = false) (j : RequestId) (p : Purpose) : new.countP (·.isBy j p) = 0 := by
  refine List.countP_eq_zero.mpr fun call hc hby => ?_
  have hquiet := h call hc
  cases call with
  | mutated _ _ _ _ _ => cases hquiet
  | _ => cases hby

theorem countP_uncalled (h : x.Uncalled i p) : x.journal.countP (·.isBy i p) = 0 := by
  refine List.countP_eq_zero.mpr fun call hc hby => ?_
  cases call with
  | mutated k q a o l =>
    simp only [Call.isBy,Bool.and_eq_true,decide_eq_true_eq] at hby
    obtain ⟨rfl,rfl⟩ := hby
    exact h _ hc a o l rfl
  | _ => cases hby

end Audit

theorem audited_attested : Attested fun x => x.Authorised ∧ x.Audited where
  pristine {f} hf := by
    obtain ⟨_,hconfirmation,_,hgrants,_,_,_,hattempts,_,hjournal⟩ := hf
    have hj : f.rows.journal = [] := hjournal
    have hg : f.rows.grants = [] := hgrants
    have ha : f.rows.attempts = [] := by simp [RunFile.rows,hattempts]
    have hc : f.rows.confirmation = none := hconfirmation
    refine ⟨⟨fun j hj => ?_,fun a ha' => ?_,fun g hg' => ?_⟩,⟨fun j p => ?_,fun j p a o l hm => ?_,fun j a o l hm => ?_⟩⟩
    · simp [Rows.spentBy,hc] at hj
    · rw [ha] at ha'; cases ha'
    · rw [hg] at hg'; cases hg'
    · rw [hj]; exact Nat.zero_le _
    · rw [hj] at hm; cases hm
    · rw [hj] at hm; cases hm
  hear {x new} hx hnew := by
    have hold : ∀ {j p a o l}, Call.mutated j p a o l ∈ new ++ x.journal → Call.mutated j p a o l ∈ x.journal := fun hm =>
      (List.mem_append.mp hm).resolve_left fun hc => by cases hnew _ hc
    refine ⟨{ hx.1 with },⟨fun j p => ?_,fun j p a o l hm => hx.2.spent j p a o l (hold hm),fun j a o l hm => hx.2.granted j a o l (hold hm)⟩⟩
    rw [List.countP_append,countP_quiet hnew,Nat.zero_add]
    exact hx.2.once j p
  mutate {i x m} outcome landed hI hm hx := by
    obtain ⟨huncalled,hlicence⟩ := hm
    refine ⟨{ hx.1 with },⟨fun j p => ?_,fun j p a o l hmem hp => ?_,fun j a o l hmem => ?_⟩⟩
    · rw [List.countP_cons]
      split
      · next hby =>
        simp only [Call.isBy,Bool.and_eq_true,decide_eq_true_eq] at hby
        obtain ⟨rfl,rfl⟩ := hby
        rw [countP_uncalled huncalled]
      · exact hx.2.once j p
    · rcases List.mem_cons.mp hmem with heq | hmem
      · obtain ⟨rfl,rfl,rfl,rfl,rfl⟩ := Call.mutated.inj heq
        cases hpurpose : m.purpose with
        | apply =>
          rw [hpurpose] at hlicence
          obtain ⟨ch,hw,_⟩ := hlicence
          exact hw.1.1
        | rollback =>
          rw [hpurpose] at hlicence
          obtain ⟨ch,hw,_⟩ := hlicence
          exact hw.1.1
        | recovery => exact absurd hpurpose hp
      · exact hx.2.spent j p a o l hmem hp
    · rcases List.mem_cons.mp hmem with heq | hmem
      · obtain ⟨rfl,hpurpose,rfl,rfl,rfl⟩ := Call.mutated.inj heq
        rw [← hpurpose] at hlicence
        obtain ⟨_,b,hb,_,_,hattempt,_⟩ := hlicence
        exact hx.1.retried b hb j hattempt
      · exact hx.2.granted j a o l hmem
  commit {i alone locked x c} _ hl hr hx := by
    have hjournal : (c.rows i x).journal = x.journal := Commit.rows_frame.2.2.2.1
    refine ⟨Commit.authorised hx.1 hl hr,⟨?_,fun j p a o l hm hp => ?_,fun j a o l hm => ?_⟩⟩
    · rw [hjournal]
      exact hx.2.once
    · exact Commit.spentBy_rows hl hr (hx.2.spent j p a o l (hjournal ▸ hm) hp)
    · obtain ⟨g,hg,hconsumed⟩ := hx.2.granted j a o l (hjournal ▸ hm)
      exact ⟨g,Commit.grants_kept hg (Commit.consumed_of_retry hconsumed),hconsumed⟩

/-- What the dispatches of a Run rest on: no request dispatches for one purpose twice, an apply and its rollback rest on the
confirmation of this very plan that no other request consumed, and a recovery retry on one of its own. -/
structure Rows.Accountable (x : Rows) : Prop where
  once : ∀ j p, x.journal.countP (·.isBy j p) ≤ 1
  applied : ∀ j p a o l, .mutated j p a o l ∈ x.journal → p ≠ .recovery →
    (∃ d, x.confirmation = some d ∧ d.consumedBy = some (.apply j) ∧ d.digest = x.preview.digest) ∧
      (x.preview.requiresOverride → ∃ d, x.override = some d ∧ d.consumedBy = some (.apply j) ∧ d.digest = x.preview.digest)
  alone : ∀ j j' p p' a a' o o' l l', .mutated j p a o l ∈ x.journal → .mutated j' p' a' o' l' ∈ x.journal →
    p ≠ .recovery → p' ≠ .recovery → j = j'
  retried : ∀ j a o l, .mutated j .recovery a o l ∈ x.journal →
    ∃ g ∈ x.grants, g.consumedBy = some (.retry j) ∧ g.digest = x.preview.digest

/-- In every run each dispatch rests on a confirmation that was consumed for it, and a consumption that is refused leaves
the store as it was. -/
theorem authority_accounted {c : engine.Config} (hc : Reach .free c) (r : RunId) :
    (World.files c.world r).rows.Accountable ∧ ∀ (i : RequestId) (commit : Commit) (e : Error) (w : World),
      World.commit c.world i r commit = (.error e,w) → w = c.world := by
  have hI : World.Inv c.world := (protocol_sound.holds hc).1
  obtain ⟨hauthorised,haudited⟩ := audited_attested.preserved.reach protocol_sound rfl hc r
  refine ⟨⟨haudited.once,fun j p a o l hm hp => ?_,fun j j' p p' a a' o o' l l' hm hm' hp hp' => ?_,fun j a o l hm => ?_⟩,?_⟩
  · have hspent := haudited.spent j p a o l hm hp
    refine ⟨?_,hauthorised.override j hspent⟩
    obtain ⟨d,hd,hby⟩ := (Option.any_eq_true ..).mp hspent
    exact ⟨d,hd,of_decide_eq_true hby,(hI.coherent r).digest d hd⟩
  · exact Rows.spentBy_unique (haudited.spent j p a o l hm hp) (haudited.spent j' p' a' o' l' hm' hp')
  · obtain ⟨g,hg,hconsumed⟩ := haudited.granted j a o l hm
    exact ⟨g,hg,hconsumed,hauthorised.granted g hg⟩
  · intro i commit e w h
    rcases World.commit_cases c.world i r commit with ⟨e',he⟩ | ⟨f,_,_,he⟩
    · rw [he] at h
      exact (Prod.mk.inj h).2.symm
    · rw [he] at h
      cases (Prod.mk.inj h).1

/-- An apply whose verification reads another value than it wrote goes on to roll back. -/
def rolledBackUnproved : List engine.Move :=
  confirmed ++ [.enter (.apply 0)] ++ advance 2 17 ++ List.replicate 12 (.step 2 (reading 4000))

/-- The one confirmation of the Run then stands behind two dispatches. -/
theorem one_confirmation_two_dispatches : ¬∀ c : engine.Config, Reach .free c → ∀ r j,
    (World.files c.world r).journal.countP (fun call => call.isBy j .apply || call.isBy j .rollback) ≤ 1 := by
  intro h
  obtain ⟨c,hc,hp⟩ := exists_of_play mtuWorld_initial rolledBackUnproved (fun c =>
    decide (2 ≤ (World.files c.world 0).journal.countP fun call => call.isBy 2 .apply || call.isBy 2 .rollback)) (by decide +kernel)
  have htwo := of_decide_eq_true hp
  exact absurd (htwo.trans (h c hc 0 2)) (by decide)

theorem rolled_back_accounted : ∃ c : engine.Config, .mutated 2 .rollback (.rollback 2) .written true ∈ (World.files c.world 0).journal ∧
    (World.files c.world 0).rows.Accountable := by
  obtain ⟨c,hc,hp⟩ := exists_of_play mtuWorld_initial rolledBackUnproved (fun c =>
    decide (.mutated 2 .rollback (.rollback 2) .written true ∈ (World.files c.world 0).journal)) (by decide +kernel)
  exact ⟨c,of_decide_eq_true hp,(authority_accounted hc 0).1⟩

end LocalPlane
