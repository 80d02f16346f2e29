import LocalPlane.Starting

/-!
# Every program keeps the protocol

Each request enters with nothing called and nothing opened under its number, and its
program keeps to its licences from there. So does every run, whatever is interleaved.
-/

set_option linter.dupNamespace false

namespace LocalPlane

open Interleaved.Contract Service

variable {q : Request} {w w' : World} {i : RequestId}

namespace World

/-- A request other than the startup pass enters while the service is up. -/
theorem enter_serving (h : enter q w = some (i,w')) {r : RunId} (hr : q.run? = some r) :
    w.phase = .serving ∧ r ∈ w.runs ∧ i = w.requests.length ∧ w' = { w with requests := w.requests ++ [q] } := by
  unfold enter at h
  simp only [hr] at h
  split at h
  · next hp => cases h; exact ⟨hp.1,hp.2,rfl,rfl⟩
  · cases h

theorem enter_startup (h : enter .startup w = some (i,w')) : w'.phase = .starting i := by
  unfold enter at h
  simp only [Request.run?] at h
  split at h
  · cases h; rfl
  · cases h

/-- Nothing was called and nothing opened under a number that was not given out yet. -/
theorem untried (hI : Inv w) (r : RunId) : (w.files r).rows.Untried w.requests.length where
  uncalled := by
    refine List.filter_eq_nil_iff.mpr fun call hc hcall => ?_
    exact absurd (hI.callers r call hc _ (by simpa using hcall)) (Nat.lt_irrefl _)
  unopened a ha ho := absurd (hI.openers r a ha) (by simp [ho])

end World

/-- What a program about one Run has to do, it has to do whoever calls it. -/
theorem ok_of_runs {r : RunId} {p : Service Response} (hI : World.Inv w) (h : World.enter q w = some (i,w'))
    (hr : q.run? = some r) (hp : ∀ (c : Caller) (s : Subject), c.request = q → s.id = r →
      Runs c i s (Rows.Untried i) p) : protocol.Ok i p (protocol.Post i) w' := by
  obtain ⟨hserving,hlisted,rfl,rfl⟩ := World.enter_serving h hr
  have hserves := hp ⟨q,w.runs,False,fun r => (w.files r).rows⟩ (Starting.subject w r) rfl rfl
  refine (hserves _ (World.enter_lawful hI h).1 ?_).mono fun _ _ _ _ => trivial
  exact {
    mode := .inl ⟨hserving,fun h => h⟩
    asked := by simp
    runs := rfl
    listed := hlisted
    object := rfl
    supported := rfl
    preview := rfl
    apart := fun h => h.elim
    holds := World.untried hI r }

theorem ok_of_harmless {r : RunId} {p : Service Response} (hI : World.Inv w) (h : World.enter q w = some (i,w'))
    (hr : q.run? = some r) (hp : p.All (Op.Harmless r)) : protocol.Ok i p (protocol.Post i) w' :=
  ok_of_runs hI h hr fun _ _ _ hs => (runs_harmless (hs ▸ hp)).pre fun _ _ => trivial

theorem protocol_sound : protocol.Sound where
  toLawful := protocol_lawful
  started := by
    intro q w i w' (hI : World.Inv w) (h : World.enter q w = some (i,w'))
    show protocol.Ok i (program i q) (protocol.Post i) w'
    cases q with
    | startup => exact triple_startup w' (World.enter_lawful hI h).1 (World.enter_startup h)
    | confirm run digest acknowledge typed displayName =>
      exact ok_of_harmless hI h rfl (harmless_of_granting (confirm_granting run digest acknowledge typed displayName))
    | grantOverride run digest acknowledge =>
      exact ok_of_harmless hI h rfl (harmless_of_granting (grantOverride_granting run digest acknowledge))
    | cancel run => exact ok_of_harmless hI h rfl (harmless_of_granting (cancel_granting run))
    | apply run => exact ok_of_runs hI h rfl fun _ _ _ hs => by subst hs; exact serves_apply
    | keep run verdict acknowledge =>
      refine ok_of_runs hI h rfl fun _ _ hc hs => ?_
      subst hs
      exact (runs_guardKeep hc).pre fun _ _ => trivial
    | recoveryConfirm run reason acknowledge =>
      exact ok_of_harmless hI h rfl (harmless_of_granting (recoveryConfirm_granting run reason acknowledge))
    | recoveryRetry run => exact ok_of_runs hI h rfl fun _ _ _ hs => by subst hs; exact runs_recoveryRetry
    | recoveryResolve run reason acknowledge statement objectName note =>
      exact ok_of_harmless hI h rfl (recoveryResolve_harmless run reason acknowledge statement objectName note)

end LocalPlane
