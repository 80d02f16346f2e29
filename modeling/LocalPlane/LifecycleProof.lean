import LocalPlane.Estate
import LocalPlane.Outcomes
import LocalPlane.UrlText

/-!
# What a reading proves of a container or a service

The executors of the two lifecycle operations: the material each takes when it dispatches,
and its judgement of a reading against that material. A restart leaves a running target, as
does doing nothing to one, so a restart is judged by the execution the reading shows.
-/

set_option linter.dupNamespace false

namespace LocalPlane

open LineProtocol (Json Fields)
open Url (Text isDigit)
namespace LifecycleProof

inductive LifecycleAction where
  | start | stop | restart
  deriving DecidableEq

/-- What a reading is judged against: the material of the dispatch and the state the plan promised. -/
structure Expectation where
  correlation : Fields
  state : String

structure ProofOfState where
  outcome : VerificationOutcome
  state : Option String := none
  reason : Option String := none
  deriving DecidableEq

def unreadable (reason : String) (state : Option String := none) : ProofOfState := ⟨.valueUnreadable,state,some reason⟩

def mismatch (state reason : String) : ProofOfState := ⟨.mismatch,some state,some reason⟩

def verified (state : String) : ProofOfState := ⟨.verified,some state,none⟩

/-- An instant as the language holds it. Two instants compare only if both have an offset or neither has. -/
structure Datetime where
  zoned : Bool
  instant : Int
  deriving DecidableEq

def Datetime.comparable (was now : Datetime) : Bool := was.zoned = now.zoned

/-- Nothing where the comparison raises. -/
def Datetime.after (now was : Datetime) : Option Bool :=
  if was.comparable now then some (was.instant < now.instant) else none

/-- How the language reads an instant; nothing where it raises ValueError. -/
abbrev Reader := Text → Option Datetime

/-- The daemon's spelling as the reader takes it: an offset for Z and six digits of a fraction. -/
def dockerText (raw : Text) : Text :=
  let text := raw.flatMap fun c => if c = 'Z' then ['+','0','0',':','0','0'] else [c]
  if '.' ∈ text then
    let tail := Url.after '.' text
    let fraction := (tail.takeWhile isDigit).take 6
    Url.before '.' text ++ '.' :: fraction ++ List.replicate (6 - fraction.length) '0' ++ tail.dropWhile isDigit
  else text

/-- The year one is the daemon's word for never. -/
def never : Text := ['0','0','0','1','-','0','1','-','0','1']

def parseDockerInstant (fromisoformat : Reader) (raw : String) : Option Datetime :=
  if raw = "" ∨ never <+: raw.toList then none else fromisoformat (dockerText raw.toList)

/-- Whether the daemon's record of the last start moved; nothing where the comparison raises. -/
def startedAgain (fromisoformat : Reader) (before : Json) (after : String) : Option Bool :=
  match before with
  | .str before =>
    if before = "" then some true
    else if before = after then some false
    else match parseDockerInstant fromisoformat before,parseDockerInstant fromisoformat after with
      | some was,some now => now.after was
      | _,_ => some true
  | _ => some true

/-- The daemon's flag and its word for the state, or nothing where they disagree. -/
def isRunning (facts : Fields) : Option Bool :=
  let named : Option Bool := match fact facts "state" with
    | .str state => if state = "" then none else some (state = "running")
    | _ => none
  match fact facts "running",named with
  | .bool running,some named => if running = named then some running else none
  | .bool running,none => some running
  | _,named => named

namespace Container

def correlate (facts : Fields) : Option Fields :=
  match fact facts "container_id" with
  | .str id =>
    if id = "" then none
    else some [("container_id",.str id),("state",fact facts "state"),("started_at",fact facts "started_at")]
  | _ => none

def prove (fromisoformat : Reader) (action : LifecycleAction) (facts : Fields) (expectation : Expectation) : Option ProofOfState :=
  match fact facts "state" with
  | .str state =>
    if state = "" then some (unreadable "container_state_unreadable")
    else if state ≠ expectation.state then some (mismatch state "observed_state_differs")
    else if isRunning facts = none then some (unreadable "daemon_state_and_running_flag_disagree" (some state))
    else if action ≠ .restart then some (verified state)
    else match fact facts "started_at" with
      | .str after =>
        if after = "" then some (unreadable "started_at_unreadable" (some state))
        else (startedAgain fromisoformat (fact expectation.correlation "started_at") after).map fun again =>
          if again then verified state else mismatch state "container_did_not_start_again"
      | _ => some (unreadable "started_at_unreadable" (some state))
  | _ => some (unreadable "container_state_unreadable")

end Container

namespace Service

/-- A restart is not dispatched without the execution it is judged against. -/
def correlate (action : LifecycleAction) (identity : String) (facts : Fields) : Option Fields :=
  if fact facts "canonical_id" ≠ .str identity then none
  else match fact facts "invocation_id" with
    | .str id => some [("unit_id",.str identity),("invocation_id",.str id),("active_state",fact facts "active_state"),
        ("sub_state",fact facts "sub_state")]
    | _ =>
      if action = .restart then none
      else some [("unit_id",.str identity),("invocation_id",.null),("active_state",fact facts "active_state"),
        ("sub_state",fact facts "sub_state")]

/-- Whether the sub-state is one of a running service; nothing where a list or an object cannot be looked up. -/
def runningSubState : Json → Option Bool
  | .str state => some (state = "running" ∨ state = "exited")
  | .arr _ | .obj _ => none
  | _ => some false

def proveInvocation (facts : Fields) (expectation : Expectation) (state : String) : ProofOfState :=
  match fact facts "invocation_id" with
  | .str observed =>
    if observed = "" then unreadable "invocation_id_unreadable" (some state)
    else if fact expectation.correlation "invocation_id" = .str observed then mismatch state "service_did_not_start_a_new_execution"
    else verified state
  | _ => unreadable "invocation_id_unreadable" (some state)

def prove (action : LifecycleAction) (facts : Fields) (expectation : Expectation) : Option ProofOfState :=
  match fact facts "active_state" with
  | .str state =>
    if state = "" then some (unreadable "active_state_unreadable")
    else if state ≠ expectation.state ∧ ¬(action = .restart ∧ state = "active") then some (mismatch state "observed_state_differs")
    else if action = .stop then some (verified state)
    else (runningSubState (fact facts "sub_state")).map fun running =>
      if running = false then mismatch state "service_sub_state_not_a_settled_running_shape"
      else if action ≠ .restart then verified state
      else proveInvocation facts expectation state
  | _ => some (unreadable "active_state_unreadable")

end Service

/-- A proof answers, and verifies only what is settled and has moved. -/
def Sound (proof : Option ProofOfState) (settled moved : Prop) : Prop :=
  proof.isSome ∧ ∀ p, proof = some p → p.outcome = .verified → settled ∧ moved

@[simp] theorem sound_none {settled moved : Prop} : ¬Sound none settled moved := fun h => by cases h.1

@[simp] theorem sound_unreadable {settled moved : Prop} {reason : String} {state : Option String} :
    Sound (some (unreadable reason state)) settled moved :=
  ⟨rfl,fun p hp hv => by cases hp; cases hv⟩

@[simp] theorem sound_mismatch {settled moved : Prop} {state reason : String} :
    Sound (some (mismatch state reason)) settled moved :=
  ⟨rfl,fun p hp hv => by cases hp; cases hv⟩

@[simp] theorem sound_verified {settled moved : Prop} {state : String} :
    Sound (some (verified state)) settled moved ↔ settled ∧ moved :=
  ⟨fun h => h.2 _ rfl rfl,fun h => ⟨rfl,fun _ _ _ => h⟩⟩

/-- How restarts of a kind of target are proven, and what the readings of one execution have in common. -/
structure Evidence where
  correlate : Fields → Option Fields
  prove : Fields → Fields → Option ProofOfState
  Settled : Fields → Prop
  Moved : Fields → Fields → Prop
  Legible : Fields → Fields → Prop
  Reports : ℕ → Fields → Prop
  sound_iff : ∀ {was correlation now}, correlate was = some correlation →
    (Sound (prove now correlation) (Settled now) (Moved was now) ↔ Legible was now)
  apart : ∀ {n was now}, Reports n was → Reports n now → ¬Moved was now

namespace Container

variable (fromisoformat : Reader)

def expectedState : String := "running"

/-- Both of the daemon's answers say running. -/
def Settled (facts : Fields) : Prop := fact facts "state" = .str expectedState ∧ fact facts "running" ≠ .bool false

def start (facts : Fields) : Option Datetime :=
  match fact facts "started_at" with
  | .str text => parseDockerInstant fromisoformat text
  | _ => none

/-- The start that is read is an instant later than the one of the baseline. -/
def Moved (was now : Fields) : Prop :=
  ∃ b a, start fromisoformat was = some b ∧ start fromisoformat now = some a ∧ b.comparable a = true ∧ b.instant < a.instant

/-- Wherever a running container shows its start, the baseline has one that it can be compared with. -/
def Legible (was now : Fields) : Prop :=
  Settled now → ∀ after, fact now "started_at" = .str after → after ≠ "" →
    ∃ before, fact was "started_at" = .str before ∧ before ≠ "" ∧ (before = after ∨
      ∃ b a, parseDockerInstant fromisoformat before = some b ∧ parseDockerInstant fromisoformat after = some a ∧
        b.comparable a = true)

theorem isRunning_running {facts : Fields} (hs : fact facts "state" = .str expectedState) :
    isRunning facts = none ↔ fact facts "running" = .bool false := by
  unfold isRunning
  rw [hs]
  cases fact facts "running" with
  | bool running => cases running <;> decide
  | _ => simp [expectedState]

theorem correlate_start {was correlation : Fields} (h : correlate was = some correlation) :
    fact correlation "started_at" = fact was "started_at" := by
  unfold correlate at h
  cases hid : fact was "container_id" with
  | str id =>
    simp only [hid] at h
    split at h
    · cases h
    · cases h
      rfl
  | _ => simp [hid] at h

/-- A start that is shown is judged soundly exactly when the baseline can be compared with it. -/
theorem startedAgain_sound {before : Json} {after : String} {settled : Prop} (hs : settled) (ha : after ≠ "") {was now : Fields}
    (hwas : fact was "started_at" = before) (hnow : fact now "started_at" = .str after) :
    Sound ((startedAgain fromisoformat before after).map fun again =>
        if again then verified expectedState else mismatch expectedState "container_did_not_start_again")
      settled (Moved fromisoformat was now) ↔
    ∃ text, before = .str text ∧ text ≠ "" ∧ (text = after ∨
      ∃ b a, parseDockerInstant fromisoformat text = some b ∧ parseDockerInstant fromisoformat after = some a ∧
        b.comparable a = true) := by
  have hmoved : Moved fromisoformat was now ↔ ∃ b a, (match before with
      | .str text => parseDockerInstant fromisoformat text
      | _ => none) = some b ∧ parseDockerInstant fromisoformat after = some a ∧ b.comparable a = true ∧ b.instant < a.instant := by
    simp only [Moved,start,hwas,hnow]
  rw [hmoved]
  cases before with
  | str text =>
    by_cases he : text = ""
    · simp [startedAgain,he,parseDockerInstant]
    · by_cases hsame : text = after
      · simp [startedAgain,hsame,ha]
      · cases hb : parseDockerInstant fromisoformat text with
        | none => simp [startedAgain,he,hsame,hb]
        | some b =>
          cases hn : parseDockerInstant fromisoformat after with
          | none => simp [startedAgain,he,hsame,hb,hn]
          | some a =>
            cases hc : b.comparable a with
            | false => simp [startedAgain,he,hsame,hb,hn,Datetime.after,hc]
            | true =>
              by_cases hlt : b.instant < a.instant
              · simp [startedAgain,he,hsame,hb,hn,Datetime.after,hc,hlt,hs]
              · simp [startedAgain,he,hsame,hb,hn,Datetime.after,hc,hlt]
  | _ => simp [startedAgain]

theorem prove_sound_iff {was correlation now : Fields} (h : correlate was = some correlation) :
    Sound (prove fromisoformat .restart now ⟨correlation,expectedState⟩) (Settled now) (Moved fromisoformat was now) ↔
      Legible fromisoformat was now := by
  unfold prove Legible
  cases hstate : fact now "state" with
  | str state =>
    by_cases he : state = ""
    · simp [he,Settled,hstate,expectedState]
    · by_cases hs : state = expectedState
      · subst hs
        by_cases hr : isRunning now = none
        · have hnot : ¬Settled now := fun hs => hs.2 ((isRunning_running hstate).mp hr)
          simp [expectedState,hr,hnot]
        · have hsettled : Settled now := ⟨hstate,fun hf => hr ((isRunning_running hstate).mpr hf)⟩
          cases hstart : fact now "started_at" with
          | str after =>
            by_cases ha : after = ""
            · simp [expectedState,hr,ha]
            · have hsound := startedAgain_sound fromisoformat hsettled ha (rfl : fact was "started_at" = _) hstart
              rw [← correlate_start h] at hsound ⊢
              simpa [expectedState,hr,ha,hsettled,correlate_start h] using hsound
          | _ => simp [expectedState,hr]
      · simp [he,hs,Settled,hstate]
  | _ => simp [Settled,hstate]

/-- A container, whose n-th execution the daemon dates with one instant wherever it dates it. -/
def evidence (startOf : ℕ → Datetime) : Evidence where
  correlate := correlate
  prove facts correlation := prove fromisoformat .restart facts ⟨correlation,expectedState⟩
  Settled := Settled
  Moved := Moved fromisoformat
  Legible := Legible fromisoformat
  Reports n facts := ∀ t, start fromisoformat facts = some t → t = startOf n
  sound_iff := prove_sound_iff fromisoformat
  apart := by
    rintro n was now hwas hnow ⟨b,a,hb,ha,-,hlt⟩
    rw [hwas b hb,hnow a ha] at hlt
    exact lt_irrefl _ hlt

end Container

namespace Service

def expectedState : String := "active_with_new_invocation_id"

def Settled (facts : Fields) : Prop :=
  fact facts "active_state" = .str "active" ∧ runningSubState (fact facts "sub_state") = some true

/-- The execution that is read is another one than the baseline's. -/
def Moved (was now : Fields) : Prop :=
  ∃ b a, fact was "invocation_id" = .str b ∧ fact now "invocation_id" = .str a ∧ b ≠ "" ∧ a ≠ "" ∧ b ≠ a

/-- An active service has a sub-state that can be looked up and, where it shows an execution other than the
baseline's, the baseline has one. -/
def Legible (was now : Fields) : Prop :=
  ∀ state, fact now "active_state" = .str state → state = "active" ∨ state = expectedState →
    runningSubState (fact now "sub_state") ≠ none ∧
      (runningSubState (fact now "sub_state") = some true → ∀ observed, fact now "invocation_id" = .str observed → observed ≠ "" →
        fact was "invocation_id" ≠ .str observed →
          state = "active" ∧ ∃ before, fact was "invocation_id" = .str before ∧ before ≠ "")

theorem correlate_invocation {identity : String} {was correlation : Fields} (h : correlate .restart identity was = some correlation) :
    fact correlation "invocation_id" = fact was "invocation_id" := by
  unfold correlate at h
  split at h
  · cases h
  · cases hid : fact was "invocation_id" with
    | str id =>
      simp only [hid] at h
      cases h
      rfl
    | _ => simp [hid] at h

/-- An execution that is shown is judged soundly exactly when the state is the manager's and the baseline has one. -/
theorem proveInvocation_sound {was correlation now : Fields} {state : String} (hstate : fact now "active_state" = .str state)
    (hsub : runningSubState (fact now "sub_state") = some true) (h : fact correlation "invocation_id" = fact was "invocation_id") :
    Sound (some (proveInvocation now ⟨correlation,expectedState⟩ state)) (Settled now) (Moved was now) ↔
      ∀ observed, fact now "invocation_id" = .str observed → observed ≠ "" → fact was "invocation_id" ≠ .str observed →
        state = "active" ∧ ∃ before, fact was "invocation_id" = .str before ∧ before ≠ "" := by
  unfold proveInvocation
  cases hid : fact now "invocation_id" with
  | str observed =>
    by_cases he : observed = ""
    · simp [he]
    · by_cases hsame : fact was "invocation_id" = .str observed
      · simp [he,h,hsame]
      · have hmoved : Moved was now ↔ ∃ before, fact was "invocation_id" = .str before ∧ before ≠ "" := by
          constructor
          · rintro ⟨b,a,hb,-,hbe,-,-⟩
            exact ⟨b,hb,hbe⟩
          · rintro ⟨b,hb,hbe⟩
            exact ⟨b,observed,hb,hid,hbe,he,fun hba => hsame (hba ▸ hb)⟩
        simp [he,h,hsame,hmoved,Settled,hstate,hsub]
  | _ => simp

theorem prove_sound_iff {identity : String} {was correlation now : Fields} (h : correlate .restart identity was = some correlation) :
    Sound (prove .restart now ⟨correlation,expectedState⟩) (Settled now) (Moved was now) ↔ Legible was now := by
  unfold prove Legible
  cases hstate : fact now "active_state" with
  | str state =>
    by_cases hactive : state = "active" ∨ state = expectedState
    · have he : state ≠ "" := by rcases hactive with rfl | rfl <;> decide
      have hpass : ¬(state ≠ expectedState ∧ ¬(LifecycleAction.restart = .restart ∧ state = "active")) := by
        rintro ⟨hne,hna⟩
        exact hactive.elim (fun ha => hna ⟨rfl,ha⟩) hne
      have hsame : ∀ P : String → Prop, (∀ s, Json.str state = .str s → s = "active" ∨ s = expectedState → P s) ↔ P state := by
        intro P
        constructor
        · exact fun hp => hp state rfl hactive
        · rintro hp s hs -
          cases hs
          exact hp
      rw [hsame]
      dsimp only
      rw [if_neg he,if_neg hpass,if_neg (by decide)]
      cases hsub : runningSubState (fact now "sub_state") with
      | none => simp
      | some running =>
        cases running with
        | false => simp
        | true => simpa using proveInvocation_sound hstate hsub (correlate_invocation h)
    · have hnone : ∀ s, Json.str state = .str s → ¬(s = "active" ∨ s = expectedState) := by
        rintro s hs
        cases hs
        exact hactive
      have hstop : state ≠ expectedState ∧ ¬(LifecycleAction.restart = .restart ∧ state = "active") :=
        ⟨fun hx => hactive (.inr hx),fun hx => hactive (.inl hx.2)⟩
      dsimp only
      by_cases he : state = ""
      · rw [if_pos he]
        exact ⟨fun _ s hs ha => absurd ha (hnone s hs),fun _ => sound_unreadable⟩
      · rw [if_neg he,if_pos hstop]
        exact ⟨fun _ s hs ha => absurd ha (hnone s hs),fun _ => sound_mismatch⟩
  | _ => simp

/-- A service, whose n-th execution the manager names with one id wherever it names it. -/
def evidence (identity : String) (idOf : ℕ → String) : Evidence where
  correlate := correlate .restart identity
  prove facts correlation := prove .restart facts ⟨correlation,expectedState⟩
  Settled := Settled
  Moved := Moved
  Legible := Legible
  Reports n facts := ∀ id, fact facts "invocation_id" = .str id → id = "" ∨ id = idOf n
  sound_iff := prove_sound_iff
  apart := by
    rintro n was now hwas hnow ⟨b,a,hb,ha,hbe,hae,hne⟩
    rcases hwas b hb,hnow a ha with ⟨rfl | rfl,rfl | rfl⟩
    · exact hbe rfl
    · exact hbe rfl
    · exact hae rfl
    · exact hne rfl

end Service

end LifecycleProof
end LocalPlane
