import LocalPlane.RuntimeOwner
import Mathlib.Data.List.Dedup

/-!
# A runtime owner is proven or not claimed

A resolved correlation is the result of one history only, in which every reading was made
twice with the same answer around one pass over the containers. Every other history ends in
a correlation that claims nothing and says which reading stood in the way.
-/

set_option linter.dupNamespace false

namespace LocalPlane

open LineProtocol (Json Fields)
open Planning (RuntimeOwnerCorrelation RuntimeOwnerStatus runtimeOwnerGaps)

namespace Correlated

abbrev History := List (Exchange Session)

section Cgroups

/-- One cgroup is another, or holds it, and neither is the root of all. -/
def Contains (ancestor descendant : String) : Prop :=
  validCgroupPath ancestor = true ∧ validCgroupPath descendant = true ∧ ancestor ≠ "/" ∧ descendant ≠ "/" ∧
    parts ancestor <+: parts descendant

theorem cgroupRelation_isSome {ancestor descendant : String} :
    (cgroupRelation ancestor descendant).isSome ↔ Contains ancestor descendant := by
  unfold cgroupRelation Contains
  split
  · next hvalid =>
    refine ⟨fun h => (nomatch h),fun h => absurd ?_ hvalid⟩
    rw [h.1,h.2.1]
    rfl
  · next hvalid =>
    obtain ⟨ha,hd⟩ := Bool.and_eq_true_iff.mp (not_not.mp hvalid)
    split
    · next hroot => exact ⟨fun h => (nomatch h),fun h => absurd hroot (not_or.mpr ⟨h.2.2.1,h.2.2.2.1⟩)⟩
    · next hroot =>
      obtain ⟨hroot,hroot'⟩ := not_or.mp hroot
      split
      · next hsame => exact ⟨fun _ => ⟨ha,hd,hroot,hroot',hsame ▸ List.prefix_refl _⟩,fun _ => rfl⟩
      · split
        · next hprefix => exact ⟨fun _ => ⟨ha,hd,hroot,hroot',List.isPrefixOf_iff_prefix.mp hprefix⟩,fun _ => rfl⟩
        · next hprefix =>
          exact ⟨fun h => (nomatch h),fun h => absurd (List.isPrefixOf_iff_prefix.mpr h.2.2.2.2) hprefix⟩

end Cgroups

section Readings

variable {α β : Type} {call : Call} {t : History} {p : Reading α}

theorem ask_ok {a : Answer call} (h : (ask call).Runs t (.ok a)) : t = [⟨call,.ok a⟩] := by
  cases h with
  | act h =>
    cases h
    rfl

theorem ask_error {e : Fault} (h : (ask call).Runs t (.error e)) : t = [⟨call,.error e⟩] := by
  cases h with
  | act h =>
    cases h
    rfl

theorem lift_ok {x : Except Fault α} {a : α} (h : (lift x).Runs t (.ok a)) : x = .ok a ∧ t = [] := by
  cases x <;> cases h
  exact ⟨rfl,rfl⟩

/-- A result after a question comes from an answer that is no exception. -/
theorem ask_bind_ok {f : Answer call → Reading β} {b : β} (h : (ask call >>= f).Runs t (.ok b)) :
    ∃ a t', (f a).Runs t' (.ok b) ∧ t = ⟨call,.ok a⟩ :: t' := by
  obtain ⟨a,t₁,t₂,ha,hf,rfl⟩ := Program.runs_bind_ok h
  obtain rfl := ask_ok ha
  exact ⟨a,t₂,hf,rfl⟩

theorem lift_bind_ok {x : Except Fault α} {f : α → Reading β} {b : β} (h : (lift x >>= f).Runs t (.ok b)) :
    ∃ a, x = .ok a ∧ (f a).Runs t (.ok b) := by
  obtain ⟨a,t₁,t₂,ha,hf,rfl⟩ := Program.runs_bind_ok h
  obtain ⟨hx,rfl⟩ := lift_ok ha
  exact ⟨a,hx,hf⟩

theorem fail_ok {gap : String} {a : α} (h : (fail gap : Reading α).Runs t (.ok a)) : False := (nomatch h)

/-- A reading that ended well was not refused on the way. -/
theorem unless_fail_ok {c : Prop} {_ : Decidable c} {gap : String} {a : α}
    (h : (if c then (fail gap : Reading α) else p).Runs t (.ok a)) : ¬c ∧ p.Runs t (.ok a) := by
  split at h
  · exact (fail_ok h).elim
  · next hc => exact ⟨hc,h⟩

theorem pure_ok {a b : α} (h : (pure a : Reading α).Runs t (.ok b)) : b = a ∧ t = [] := by
  cases h
  exact ⟨rfl,rfl⟩

/-- What one exchange raised. -/
def raised (x : Exchange Session) : Option Fault :=
  match (show Except Fault (Answer x.1) from x.2) with
  | .ok _ => none
  | .error fault => some fault

/-- Whatever is raised in a history names a gap of the closed vocabulary. -/
def Vocabulary (t : History) : Prop := ∀ x ∈ t, ∀ fault ∈ raised x, fault.gap ∈ runtimeOwnerGaps

/-- A reading raises nothing outside the vocabulary of its own. -/
def Raises (p : Reading α) : Prop := ∀ t e, p.Runs t (.error e) → Vocabulary t → e.gap ∈ runtimeOwnerGaps

theorem Vocabulary.append {t t' : History} : Vocabulary (t ++ t') ↔ Vocabulary t ∧ Vocabulary t' := List.forall_mem_append

theorem Raises.bind {f : α → Reading β} (hp : Raises p) (hf : ∀ a, Raises (f a)) : Raises (p >>= f) := by
  intro t e hr hv
  rcases Program.runs_bind hr with ⟨e',he,heq⟩ | ⟨a,t₁,t₂,-,hx,rfl⟩
  · cases heq
    exact hp t e he hv
  · exact hf a t₂ e hx (Vocabulary.append.mp hv).2

theorem raises_ask (call : Call) : Raises (ask call) := by
  intro t e hr hv
  obtain rfl := ask_error hr
  exact hv _ (.head _) e rfl

theorem raises_lift {x : Except Fault α} (h : ∀ e, x = .error e → e.gap ∈ runtimeOwnerGaps) : Raises (lift x) := by
  intro t e hr hv
  cases x with
  | ok a => cases hr
  | error e' =>
    cases hr
    exact h e rfl

theorem raises_pure (a : α) : Raises (pure a : Reading α) := fun _ _ hr _ => (nomatch hr)

theorem raises_fail {gap : String} (h : gapPrefix ++ gap ∈ runtimeOwnerGaps) : Raises (fail gap : Reading α) := by
  intro t e hr hv
  cases hr
  exact h

theorem raises_closing (hp : Raises p) : Raises (closing p) := by
  intro t e hr hv
  obtain ⟨x,t₁,t₂,hx,hclose,rfl⟩ := Program.runs_settle hr
  obtain ⟨hv₁,hv₂⟩ := Vocabulary.append.mp hv
  cases hclose with
  | @act _ _ r _ _ hclose =>
    cases r with
    | ok u =>
      cases hclose
      exact hp t₁ e hx hv₁
    | error fault =>
      cases hclose
      exact hv₂ _ (.head _) e rfl

theorem closing_ok {a : α} (h : (closing p).Runs t (.ok a)) : ∃ t₁, p.Runs t₁ (.ok a) ∧ t = t₁ ++ [⟨.closeSnapshot,.ok ()⟩] := by
  obtain ⟨x,t₁,t₂,hx,hclose,rfl⟩ := Program.runs_settle h
  cases hclose with
  | @act _ _ r _ _ hclose =>
    cases r with
    | ok u =>
      cases hclose
      exact ⟨t₁,hx,rfl⟩
    | error fault => cases hclose

end Readings

section Checks

variable {validStartedAt : String → Bool} {resolution : ProcessUnitResolution} {attestation : DockerDirectEngineAttestation}
  {peerPid : Int} {peerCgroup : String} {inspected : Fields} {containerId : String}

/-- A unit of the service manager is the service the attestation names, and the peer is its main process. -/
structure Serves (resolution : ProcessUnitResolution) (attestation : DockerDirectEngineAttestation) (peerPid : Int)
    (peerCgroup : String) (service : ServiceState) : Prop where
  resolved : resolution.status = "resolved"
  unit : resolution.canonicalId = some attestation.engineUnitId
  invocation : resolution.invocationId = some service.invocationId
  generation : isInvocationId service.invocationId = true
  mainPid : service.mainPid = peerPid ∧ 0 < peerPid
  cgroup : Contains service.controlGroup peerCgroup
  facts : ∃ facts, resolution.facts = some facts ∧ fact facts "unit_type" = .str "service" ∧
    fact facts "load_state" = .str "loaded" ∧ fact facts "active_state" = .str "active" ∧
    fact facts "current_job" = .null ∧
    fact ((Planning.Json.obj? (fact facts "service")).getD []) "main_pid" = .num peerPid

theorem validateSystemdOwner_ok {service : ServiceState} (h : validateSystemdOwner resolution attestation peerPid peerCgroup = .ok service) :
    Serves resolution attestation peerPid peerCgroup service := by
  unfold validateSystemdOwner at h
  split at h
  · cases h
  · next facts hfacts =>
    split at h
    · cases h
    · next hstatus =>
      split at h
      · cases h
      · next htype =>
        split at h
        · cases h
        · next hunit =>
          split at h
          · cases h
          · next invocation hinvocation =>
            split at h
            · cases h
            · next hstable =>
              simp only [not_or,not_not] at hstable
              obtain ⟨-,hload,hactive,-,hjob,hgeneration,-⟩ := hstable
              dsimp only at h
              split at h
              · cases h
              · next hmain =>
                obtain ⟨hpos,hmain⟩ := not_not.mp hmain
                split at h
                · split at h
                  · cases h
                  · next hcgroup =>
                    cases h
                    exact ⟨not_not.mp hstatus,not_not.mp hunit,hinvocation,hgeneration,⟨rfl,hpos⟩,
                      cgroupRelation_isSome.mp (Option.isSome_iff_ne_none.mpr hcgroup),
                      facts,hfacts,not_not.mp htype,hload,hactive,hjob,hmain⟩
                · cases h

theorem Raises.ite {c : Prop} {_ : Decidable c} {q : Reading α} (hp : Raises p) (hq : Raises q) : Raises (if c then p else q) := by
  split
  · exact hp
  · exact hq

/-- A gap stands at some place of the vocabulary. -/
theorem gap_at (i : ℕ) {gap : String} (h : runtimeOwnerGaps[i]? = some (gapPrefix ++ gap)) :
    gapPrefix ++ gap ∈ runtimeOwnerGaps := List.mem_of_getElem? h

theorem refuse_gap {α : Type} {gap : String} {e : Fault} (hgap : gapPrefix ++ gap ∈ runtimeOwnerGaps)
    (h : (refuse gap : Except Fault α) = .error e) : e.gap ∈ runtimeOwnerGaps := by
  cases h
  exact hgap

theorem validateSystemdOwner_gap {e : Fault} (h : validateSystemdOwner resolution attestation peerPid peerCgroup = .error e) :
    e.gap ∈ runtimeOwnerGaps := by
  unfold validateSystemdOwner at h
  dsimp only at h
  split at h
  · split at h
    · exact refuse_gap (gap_at 10 rfl) h
    · exact refuse_gap (gap_at 7 rfl) h
  · split at h
    · exact refuse_gap (gap_at 7 rfl) h
    · split at h
      · exact refuse_gap (gap_at 10 rfl) h
      · split at h
        · exact refuse_gap (gap_at 8 rfl) h
        · split at h
          · exact refuse_gap (gap_at 6 rfl) h
          · split at h
            · exact refuse_gap (gap_at 6 rfl) h
            · split at h
              · exact refuse_gap (gap_at 9 rfl) h
              · split at h
                · split at h
                  · exact refuse_gap (gap_at 6 rfl) h
                  · cases h
                · exact refuse_gap (gap_at 6 rfl) h

/-- A container runs in the host's network with this main process. -/
def MainProcess (inspected : Fields) (pid : Int) : Prop :=
  ∃ state host, fact inspected "State" = .obj state ∧ fact inspected "HostConfig" = .obj host ∧
    fact state "Running" = .bool true ∧ fact host "NetworkMode" = .str "host" ∧ fact state "Pid" = .num pid ∧ 0 < pid

/-- The Engine dates the start of what the container runs. -/
def Dated (validStartedAt : String → Bool) (inspected : Fields) : Prop :=
  ∃ state startedAt, fact inspected "State" = .obj state ∧ fact state "StartedAt" = .str startedAt ∧ startedAt ≠ "" ∧
    validStartedAt startedAt = true

theorem runtimeCandidate_ok {found : Option (String × Int)} (h : runtimeCandidate validStartedAt inspected containerId = .ok found) :
    (∀ startedAt pid, found = some (startedAt,pid) → MainProcess inspected pid) ∧
      ∀ pid, MainProcess inspected pid → Dated validStartedAt inspected → ∃ startedAt, found = some (startedAt,pid) := by
  unfold runtimeCandidate at h
  split at h
  · cases h
  · split at h
    · next state host hstate hhost =>
      split at h
      · next hidle =>
        cases h
        refine ⟨fun _ _ hf => (nomatch hf),?_⟩
        rintro pid ⟨state',host',hstate',hhost',hrunning,hnetwork,-,-⟩ -
        rw [hstate] at hstate'
        rw [hhost] at hhost'
        cases hstate'
        cases hhost'
        exact absurd hidle (not_or.mpr ⟨not_not.mpr hrunning,not_not.mpr hnetwork⟩)
      · next hlive =>
        obtain ⟨hrunning,hnetwork⟩ := not_or.mp hlive
        split at h
        · next pid startedAt hpid hstarted =>
          split at h
          · next hvalid =>
            cases h
            refine ⟨fun startedAt' pid' hf => ?_,?_⟩
            · cases hf
              exact ⟨state,host,hstate,hhost,not_not.mp hrunning,not_not.mp hnetwork,hpid,hvalid.1⟩
            · rintro pid' ⟨state',host',hstate',-,-,-,hpid',-⟩ -
              rw [hstate] at hstate'
              cases hstate'
              rw [hpid] at hpid'
              cases hpid'
              exact ⟨startedAt,rfl⟩
          · next hinvalid =>
            cases h
            refine ⟨fun _ _ hf => (nomatch hf),?_⟩
            rintro pid' ⟨state',host',hstate',-,-,-,hpid',hpos⟩ ⟨state₂,startedAt',hstate₂,hstarted',hne,hdate⟩
            rw [hstate] at hstate' hstate₂
            cases hstate'
            cases hstate₂
            rw [hpid] at hpid'
            rw [hstarted] at hstarted'
            cases hpid'
            cases hstarted'
            exact absurd ⟨hpos,hne,hdate⟩ hinvalid
        · next hshape =>
          cases h
          refine ⟨fun _ _ hf => (nomatch hf),?_⟩
          rintro pid' ⟨state',host',hstate',-,-,-,hpid',-⟩ ⟨state₂,startedAt',hstate₂,hstarted',-,-⟩
          rw [hstate] at hstate' hstate₂
          cases hstate'
          cases hstate₂
          exact absurd hstarted' (hshape pid' startedAt' hpid')
    · cases h

theorem runtimeCandidate_gap {e : Fault} (h : runtimeCandidate validStartedAt inspected containerId = .error e) :
    e.gap ∈ runtimeOwnerGaps := by
  unfold runtimeCandidate at h
  split at h
  · exact refuse_gap (gap_at 11 rfl) h
  · split at h
    · split at h
      · cases h
      · split at h
        · split at h <;> cases h
        · cases h
    · exact refuse_gap (gap_at 11 rfl) h

theorem build_ok {o owner : RuntimeOwnerCorrelation} (h : build o = .ok owner) : owner = o ∧ owner.check (fun _ => true) = true := by
  unfold build at h
  split at h
  · next hcheck =>
    cases h
    exact ⟨rfl,hcheck⟩
  · cases h

theorem build_gap {o : RuntimeOwnerCorrelation} {e : Fault} (h : build o = .error e) : e.gap ∈ runtimeOwnerGaps := by
  unfold build at h
  split at h
  · cases h
  · cases h
    exact gap_at 6 rfl

end Checks

section Scan

variable (validStartedAt : String → Bool) (accepted : String) (identity : Identity)

/-- A container that is no candidate, or whose process was pinned outside the accepted cgroup's line. -/
def Passed (containerId : String) (t : History) : Prop :=
  ∃ inspected found, runtimeCandidate validStartedAt inspected containerId = .ok found ∧
    ((found = none ∧ t = [⟨.inspectListedContainer containerId,.ok inspected⟩]) ∨ ∃ startedAt pid pinned, found = some (startedAt,pid) ∧
      ¬Contains pinned.cgroupPath accepted ∧
      t = [⟨.inspectListedContainer containerId,.ok inspected⟩,⟨.pin pid,.ok pinned⟩])

/-- A match was read twice the same, with a process that is still the one and an accepted cgroup that is still the same. -/
def Found (m : Match) (t : History) : Prop :=
  ∃ inspected again pid, runtimeCandidate validStartedAt inspected m.containerId = .ok (some (m.startedAt,pid)) ∧
    runtimeCandidate validStartedAt again m.containerId = .ok (some (m.startedAt,pid)) ∧
    cgroupRelation m.process.cgroupPath accepted = some m.relation ∧
    t = [⟨.inspectListedContainer m.containerId,.ok inspected⟩,⟨.pin pid,.ok m.process⟩,
      ⟨.inspectListedContainer m.containerId,.ok again⟩,⟨.stable m.process,.ok true⟩,⟨.cgroupIdentity accepted,.ok identity⟩]

/-- One pass over the listed containers, with the matches it kept. -/
inductive Scanned : List String → History → List Match → Prop
  | nil : Scanned [] [] []
  | passed {containerId : String} {rest : List String} {t t' : History} {found : List Match}
      (h : Passed validStartedAt accepted containerId t) (more : Scanned rest t' found) : Scanned (containerId :: rest) (t ++ t') found
  | found {m : Match} {rest : List String} {t t' : History} {found : List Match}
      (h : Found validStartedAt accepted identity m t) (more : Scanned rest t' found) :
      Scanned (m.containerId :: rest) (t ++ t') (m :: found)

variable {validStartedAt accepted identity} {containerId : String} {t : History}

theorem inspectOne_ok {found : Option Match} (hr : (inspectOne validStartedAt accepted identity containerId).Runs t (.ok found)) :
    (found = none ∧ Passed validStartedAt accepted containerId t) ∨
      ∃ m, found = some m ∧ m.containerId = containerId ∧ Found validStartedAt accepted identity m t := by
  obtain ⟨inspected,t₁,h₁,rfl⟩ := ask_bind_ok hr
  obtain ⟨candidate,hcandidate,h₂⟩ := lift_bind_ok h₁
  split at h₂
  · obtain ⟨rfl,rfl⟩ := pure_ok h₂
    exact .inl ⟨rfl,inspected,none,hcandidate,.inl ⟨rfl,rfl⟩⟩
  · next startedAt pid =>
    obtain ⟨pinned,t₃,h₃,rfl⟩ := ask_bind_ok h₂
    split at h₃
    · next hrelation =>
      obtain ⟨rfl,rfl⟩ := pure_ok h₃
      have houtside : ¬Contains pinned.cgroupPath accepted := fun hc => by
        rw [← cgroupRelation_isSome,hrelation] at hc
        cases hc
      exact .inl ⟨rfl,inspected,_,hcandidate,.inr ⟨startedAt,pid,pinned,rfl,houtside,rfl⟩⟩
    · next relation hrelation =>
      obtain ⟨again,t₄,h₄,rfl⟩ := ask_bind_ok h₃
      obtain ⟨candidateAgain,hagain,h₅⟩ := lift_bind_ok h₄
      split at h₅
      · exact (fail_ok h₅).elim
      · next hsame =>
        obtain ⟨stable,t₆,h₆,rfl⟩ := ask_bind_ok h₅
        split at h₆
        · exact (fail_ok h₆).elim
        · next hstable =>
          obtain ⟨current,t₇,h₇,rfl⟩ := ask_bind_ok h₆
          split at h₇
          · exact (fail_ok h₇).elim
          · next hcurrent =>
            obtain ⟨rfl,rfl⟩ := pure_ok h₇
            rw [not_not.mp hsame] at hagain
            obtain rfl := not_not.mp hstable
            obtain rfl := not_not.mp hcurrent
            exact .inr ⟨_,rfl,rfl,inspected,again,pid,hcandidate,hagain,hrelation,rfl⟩

theorem inspectAll_ok {listed : List String} {found : List Match}
    (hr : (inspectAll validStartedAt accepted identity listed).Runs t (.ok found)) : Scanned validStartedAt accepted identity listed t found := by
  induction listed generalizing t found with
  | nil =>
    obtain ⟨rfl,rfl⟩ := pure_ok hr
    exact .nil
  | cons containerId rest ih =>
    obtain ⟨one,t₁,_,hone,h₁,rfl⟩ := Program.runs_bind_ok hr
    obtain ⟨more,t₂,_,hmore,h₂,rfl⟩ := Program.runs_bind_ok h₁
    obtain ⟨rfl,rfl⟩ := pure_ok h₂
    rw [List.append_nil]
    rcases inspectOne_ok hone with ⟨rfl,hpassed⟩ | ⟨m,rfl,rfl,hfound⟩
    · exact .passed hpassed (ih hmore)
    · exact .found hfound (ih hmore)

theorem raises_inspectOne : Raises (inspectOne validStartedAt accepted identity containerId) := by
  refine (raises_ask _).bind fun inspected => (raises_lift fun e he => runtimeCandidate_gap he).bind fun candidate => ?_
  split
  · exact raises_pure _
  · refine (raises_ask _).bind fun pinned => ?_
    split
    · exact raises_pure _
    · refine (raises_ask _).bind fun again => (raises_lift fun e he => runtimeCandidate_gap he).bind fun candidateAgain => ?_
      split
      · exact raises_fail (gap_at 16 rfl)
      · refine (raises_ask _).bind fun stable => ?_
        split
        · exact raises_fail (gap_at 16 rfl)
        · refine (raises_ask _).bind fun current => ?_
          split
          · exact raises_fail (gap_at 16 rfl)
          · exact raises_pure _

theorem raises_inspectAll {listed : List String} : Raises (inspectAll validStartedAt accepted identity listed) := by
  induction listed with
  | nil => exact raises_pure _
  | cons containerId rest ih => exact raises_inspectOne.bind fun found => ih.bind fun more => raises_pure _

end Scan

section Sandwich

/-- The answers of a history that resolves an owner: whatever is read on both sides of the pass over the containers
answered the same. -/
structure Sandwich (validStartedAt : String → Bool) (accepted : String) where
  attestation : DockerDirectEngineAttestation
  before : DockerDirectAttestationRead
  after : DockerDirectAttestationRead
  identity : Identity
  peer : Peer
  peerProcess : PinnedProcessCgroup
  first : ProcessUnitResolution
  second : ProcessUnitResolution
  service : ServiceState
  version : DockerRuntimeVersion
  info : DockerRuntimeInfo
  listed : List String
  scanned : History
  found : Match
  final : Fields
  trustedBefore : before.trusted = some attestation
  trustedAfter : after.trusted = some attestation
  serves : Serves first attestation peer.pid peerProcess.cgroupPath service
  servesStill : Serves second attestation peer.pid peerProcess.cgroupPath service
  only : Scanned validStartedAt accepted identity listed scanned [found]
  still : runtimeCandidate validStartedAt final found.containerId = .ok (some (found.startedAt,found.process.pid))
  relation : cgroupRelation found.process.cgroupPath accepted = some found.relation

variable {validStartedAt : String → Bool} {accepted : String}

namespace Sandwich

variable (w : Sandwich validStartedAt accepted)

/-- The first readings, up to the list of containers. -/
def opening : History :=
  [⟨.readAttestation,.ok w.before⟩,⟨.cgroupIdentity accepted,.ok w.identity⟩,⟨.openSnapshot w.attestation,.ok w.peer⟩,
    ⟨.inspectExisting w.peer.pid w.peer.pidfd,.ok w.peerProcess⟩,⟨.sharesObserverPidNamespace w.peerProcess,.ok true⟩,
    ⟨.resolveProcessUnit w.peer.pidfd,.ok w.first⟩,⟨.readVersion,.ok w.version⟩,⟨.readInfo,.ok w.info⟩,
    ⟨.listContainerIds,.ok w.listed⟩]

/-- The second readings, around the one match. -/
def ending : History :=
  [⟨.readInfo,.ok w.info⟩,⟨.readVersion,.ok w.version⟩,⟨.resolveProcessUnit w.peer.pidfd,.ok w.second⟩,
    ⟨.inspectListedContainer w.found.containerId,.ok w.final⟩,⟨.stable w.peerProcess,.ok true⟩,⟨.stable w.found.process,.ok true⟩,
    ⟨.cgroupIdentity accepted,.ok w.identity⟩,⟨.readAttestation,.ok w.after⟩,⟨.requirePeerLive,.ok ()⟩,⟨.closeSnapshot,.ok ()⟩]

def history : History := w.opening ++ w.scanned ++ w.ending

def owner : RuntimeOwnerCorrelation := resolvedOwner w.attestation w.info w.first w.found

/-- Every other listed container, among those that count, was seen with a main process outside the accepted cgroup's line. -/
def Alone (Counts : Fields → Prop) : Prop :=
  ∀ containerId ∈ w.listed, containerId ≠ w.found.containerId →
    ∃ inspected, ⟨.inspectListedContainer containerId,.ok inspected⟩ ∈ w.history ∧
      ∀ pid, MainProcess inspected pid → Counts inspected →
        ∃ pinned, ⟨.pin pid,.ok pinned⟩ ∈ w.history ∧ ¬Contains pinned.cgroupPath accepted

end Sandwich

/-- What a pass over the containers saw of each one it kept no match for. -/
theorem Scanned.rest {identity : Identity} {listed : List String} {t : History} {found : List Match}
    (h : Scanned validStartedAt accepted identity listed t found) {containerId : String} (hmem : containerId ∈ listed)
    (hnone : ∀ m ∈ found, m.containerId ≠ containerId) : ∃ inspected, ⟨.inspectListedContainer containerId,.ok inspected⟩ ∈ t ∧
      ∀ pid, MainProcess inspected pid → Dated validStartedAt inspected →
        ∃ pinned, ⟨.pin pid,.ok pinned⟩ ∈ t ∧ ¬Contains pinned.cgroupPath accepted := by
  induction h with
  | nil => cases hmem
  | passed hpassed more ih =>
    rcases List.mem_cons.mp hmem with rfl | hmem
    · obtain ⟨inspected,candidate,hcandidate,⟨rfl,rfl⟩ | ⟨startedAt,pid,pinned,rfl,houtside,rfl⟩⟩ := hpassed
      · refine ⟨inspected,List.mem_append_left _ (.head _),fun pid hmain hdated => ?_⟩
        obtain ⟨startedAt,hf⟩ := (runtimeCandidate_ok hcandidate).2 pid hmain hdated
        cases hf
      · refine ⟨inspected,List.mem_append_left _ (.head _),fun pid' hmain hdated => ?_⟩
        obtain ⟨startedAt',hf⟩ := (runtimeCandidate_ok hcandidate).2 pid' hmain hdated
        cases hf
        exact ⟨pinned,List.mem_append_left _ (.tail _ (.head _)),houtside⟩
    · obtain ⟨inspected,hin,hrest⟩ := ih hmem hnone
      refine ⟨inspected,List.mem_append_right _ hin,fun pid hmain hdated => ?_⟩
      obtain ⟨pinned,hpin,houtside⟩ := hrest pid hmain hdated
      exact ⟨pinned,List.mem_append_right _ hpin,houtside⟩
  | found hfound more ih =>
    rcases List.mem_cons.mp hmem with rfl | hmem
    · exact absurd rfl (hnone _ (.head _))
    · obtain ⟨inspected,hin,hrest⟩ := ih hmem fun m hm => hnone m (.tail _ hm)
      refine ⟨inspected,List.mem_append_right _ hin,fun pid hmain hdated => ?_⟩
      obtain ⟨pinned,hpin,houtside⟩ := hrest pid hmain hdated
      exact ⟨pinned,List.mem_append_right _ hpin,houtside⟩

theorem Sandwich.alone (w : Sandwich validStartedAt accepted) : w.Alone (Dated validStartedAt) := by
  intro containerId hmem hne
  obtain ⟨inspected,hin,hrest⟩ := w.only.rest hmem fun m hm => by
    rw [List.mem_singleton.mp hm]
    exact hne.symm
  have hscan : ∀ x ∈ w.scanned, x ∈ w.history := fun x hx => List.mem_append_left _ (List.mem_append_right _ hx)
  refine ⟨inspected,hscan _ hin,fun pid hmain hdated => ?_⟩
  obtain ⟨pinned,hpin,houtside⟩ := hrest pid hmain hdated
  exact ⟨pinned,hscan _ hpin,houtside⟩

end Sandwich

section Correlation

variable {validStartedAt : String → Bool} {accepted : String} {attestation : DockerDirectEngineAttestation} {identity : Identity}
  {peer : Peer} {process : PinnedProcessCgroup} {unit : ProcessUnitResolution} {service : ServiceState}
  {version : DockerRuntimeVersion} {info : DockerRuntimeInfo} {found : Match} {owner : RuntimeOwnerCorrelation} {t : History}

theorem confirm_ok (hr : (confirm validStartedAt accepted attestation identity peer process unit service version info found).Runs t
    (.ok owner)) : ∃ second after final, Serves second attestation peer.pid process.cgroupPath service ∧
      runtimeCandidate validStartedAt final found.containerId = .ok (some (found.startedAt,found.process.pid)) ∧
      cgroupRelation found.process.cgroupPath accepted = some found.relation ∧
      DockerDirectAttestationRead.trusted after = some attestation ∧ owner = resolvedOwner attestation info unit found ∧
      owner.check (fun _ => true) = true ∧
      t = [⟨.readInfo,.ok info⟩,⟨.readVersion,.ok version⟩,⟨.resolveProcessUnit peer.pidfd,.ok second⟩,
        ⟨.inspectListedContainer found.containerId,.ok final⟩,⟨.stable process,.ok true⟩,⟨.stable found.process,.ok true⟩,
        ⟨.cgroupIdentity accepted,.ok identity⟩,⟨.readAttestation,.ok after⟩,⟨.requirePeerLive,.ok ()⟩] := by
  obtain ⟨infoAgain,t₁,h₁,rfl⟩ := ask_bind_ok hr
  obtain ⟨versionAgain,t₂,h₂,rfl⟩ := ask_bind_ok h₁
  obtain ⟨hengine,h₃⟩ := unless_fail_ok h₂
  obtain ⟨hversion,hinfo⟩ := not_or.mp hengine
  obtain rfl := not_not.mp hversion
  obtain rfl := not_not.mp hinfo
  obtain ⟨second,t₄,h₄,rfl⟩ := ask_bind_ok h₃
  obtain ⟨serviceAgain,hserves,h₅⟩ := lift_bind_ok h₄
  obtain ⟨hservice,h₆⟩ := unless_fail_ok h₅
  obtain rfl := not_not.mp hservice
  obtain ⟨final,t₇,h₇,rfl⟩ := ask_bind_ok h₆
  obtain ⟨_,h₈⟩ := unless_fail_ok h₇
  obtain ⟨candidate,hcandidate,h₉⟩ := lift_bind_ok h₈
  obtain ⟨hagain,h₁₀⟩ := unless_fail_ok h₉
  obtain ⟨hsame,hrelation⟩ := not_or.mp hagain
  rw [not_not.mp hsame] at hcandidate
  obtain ⟨peerStable,t₁₁,h₁₁,rfl⟩ := ask_bind_ok h₁₀
  obtain ⟨hpeer,h₁₂⟩ := unless_fail_ok h₁₁
  obtain rfl := not_not.mp hpeer
  obtain ⟨matchStable,t₁₃,h₁₃,rfl⟩ := ask_bind_ok h₁₂
  obtain ⟨hmatch,h₁₄⟩ := unless_fail_ok h₁₃
  obtain rfl := not_not.mp hmatch
  obtain ⟨current,t₁₅,h₁₅,rfl⟩ := ask_bind_ok h₁₄
  obtain ⟨hcurrent,h₁₆⟩ := unless_fail_ok h₁₅
  obtain rfl := not_not.mp hcurrent
  obtain ⟨after,t₁₇,h₁₇,rfl⟩ := ask_bind_ok h₁₆
  obtain ⟨hafter,h₁₈⟩ := unless_fail_ok h₁₇
  obtain ⟨live,t₁₉,h₁₉,rfl⟩ := ask_bind_ok h₁₈
  obtain ⟨hbuild,rfl⟩ := lift_ok h₁₉
  obtain ⟨howner,hcheck⟩ := build_ok hbuild
  exact ⟨second,after,final,validateSystemdOwner_ok hserves,hcandidate,not_not.mp hrelation,not_not.mp hafter,howner,hcheck,rfl⟩

theorem raises_confirm : Raises (confirm validStartedAt accepted attestation identity peer process unit service version info found) := by
  refine (raises_ask _).bind fun infoAgain => (raises_ask _).bind fun versionAgain => .ite (raises_fail (gap_at 11 rfl)) ?_
  refine (raises_ask _).bind fun second => (raises_lift fun e he => validateSystemdOwner_gap he).bind fun serviceAgain =>
    .ite (raises_fail (gap_at 6 rfl)) ?_
  refine (raises_ask _).bind fun final => .ite (raises_fail (gap_at 16 rfl)) ?_
  refine (raises_lift fun e he => runtimeCandidate_gap he).bind fun candidate => .ite (raises_fail (gap_at 16 rfl)) ?_
  refine (raises_ask _).bind fun peerStable => .ite (raises_fail (gap_at 16 rfl)) ?_
  refine (raises_ask _).bind fun matchStable => .ite (raises_fail (gap_at 16 rfl)) ?_
  refine (raises_ask _).bind fun current => .ite (raises_fail (gap_at 16 rfl)) ?_
  refine (raises_ask _).bind fun after => .ite (raises_fail (gap_at 2 rfl)) ?_
  exact (raises_ask _).bind fun live => raises_lift fun e he => build_gap he

theorem raises_observeOwner : Raises (observeOwner validStartedAt accepted attestation identity peer) := by
  refine (raises_ask _).bind fun process => (raises_ask _).bind fun shared => ?_
  split
  · intro t e hr hv
    cases hr
    exact gap_at 17 rfl
  · refine (raises_ask _).bind fun unit => (raises_lift fun e he => validateSystemdOwner_gap he).bind fun service =>
      (raises_ask _).bind fun version => (raises_ask _).bind fun info => (raises_ask _).bind fun listed =>
        raises_inspectAll.bind fun found => ?_
    split
    · exact raises_fail (gap_at 14 rfl)
    · exact raises_confirm
    · exact raises_fail (gap_at 15 rfl)

/-- What is done once the attestation is trusted. -/
def guarded (validStartedAt : String → Bool) (accepted : String) (attestation : DockerDirectEngineAttestation) :
    Reading RuntimeOwnerCorrelation := do
  let identity : Identity ← ask (.cgroupIdentity accepted)
  let peer ← ask (.openSnapshot attestation)
  closing (observeOwner validStartedAt accepted attestation identity peer)

theorem raises_guarded : Raises (guarded validStartedAt accepted attestation) :=
  (raises_ask _).bind fun _ => (raises_ask _).bind fun _ => raises_closing raises_observeOwner

/-- A result of the guarded part is the owner of one sandwich of readings. -/
theorem guarded_ok {before : DockerDirectAttestationRead} (hbefore : before.trusted = some attestation)
    (hr : (guarded validStartedAt accepted attestation).Runs t (.ok owner)) : owner.check (fun _ => true) = true ∧
      ∃ w : Sandwich validStartedAt accepted, ⟨.readAttestation,.ok before⟩ :: t = w.history ∧ owner = w.owner := by
  obtain ⟨identity,t₁,h₁,rfl⟩ := ask_bind_ok hr
  obtain ⟨peer,t₂,h₂,rfl⟩ := ask_bind_ok h₁
  obtain ⟨t₃,h₃,rfl⟩ := closing_ok h₂
  obtain ⟨process,t₄,h₄,rfl⟩ := ask_bind_ok h₃
  obtain ⟨shared,t₅,h₅,rfl⟩ := ask_bind_ok h₄
  split at h₅
  · cases h₅
  · next hshared =>
    obtain rfl := not_not.mp hshared
    obtain ⟨unit,t₆,h₆,rfl⟩ := ask_bind_ok h₅
    obtain ⟨service,hserves,h₇⟩ := lift_bind_ok h₆
    obtain ⟨version,t₈,h₈,rfl⟩ := ask_bind_ok h₇
    obtain ⟨info,t₉,h₉,rfl⟩ := ask_bind_ok h₈
    obtain ⟨listed,t₁₀,h₁₀,rfl⟩ := ask_bind_ok h₉
    obtain ⟨matched,scanned,t₁₁,hscan,h₁₁,rfl⟩ := Program.runs_bind_ok h₁₀
    split at h₁₁
    · exact (fail_ok h₁₁).elim
    · next found =>
      obtain ⟨second,after,final,hsecond,hfinal,hrelation,hafter,howner,hcheck,rfl⟩ := confirm_ok h₁₁
      refine ⟨hcheck,⟨attestation,before,after,identity,peer,process,unit,second,service,version,info,listed,scanned,found,final,
        hbefore,hafter,validateSystemdOwner_ok hserves,hsecond,inspectAll_ok hscan,hfinal,hrelation⟩,?_,howner⟩
      simp [Sandwich.history,Sandwich.opening,Sandwich.ending]
    · exact (fail_ok h₁₁).elim

/-- A correlation that claims nothing, and says why. -/
structure Unclaimed (owner : RuntimeOwnerCorrelation) : Prop where
  gaps : owner.gaps ≠ []
  vocabulary : ∀ gap ∈ owner.gaps, gap ∈ runtimeOwnerGaps
  container : owner.containerId = none ∧ owner.containerStartedAt = none
  engine : owner.engineId = none
  unit : owner.ownerUnitId = none ∧ owner.ownerInvocationId = none
  relation : owner.executionCgroupRelation = none
  unverified : owner.directTransportVerified = false ∧ owner.peerServiceMainVerified = false

theorem incomplete_runs {gap : String} {semantic : Option DockerDirectEngineAttestation} {x : Except Fault RuntimeOwnerCorrelation}
    (hgap : gap ∈ runtimeOwnerGaps) (hr : (incomplete [gap] semantic).Runs t x) :
    ∃ owner, x = .ok owner ∧ owner.check (fun _ => true) = true ∧ owner.status = .incomplete ∧ Unclaimed owner ∧ t = [] := by
  unfold incomplete lift at hr
  cases hr
  have hdedup : [gap].dedup = [gap] := List.Nodup.dedup (List.nodup_singleton gap)
  have hsorted : sorted [gap] = [gap] := rfl
  rw [hdedup,hsorted]
  have hcheck : RuntimeOwnerCorrelation.check (fun _ => true) ⟨"docker-direct-unix-v1",1,"docker",.incomplete,
      semantic.map (·.fingerprint),semantic.map (·.engineEndpoint),none,none,none,false,false,none,none,none,[gap]⟩ = true := by
    simp [RuntimeOwnerCorrelation.check,hgap,hsorted,RuntimeOwnerCorrelation.claimed]
  refine ⟨_,if_pos hcheck,hcheck,rfl,⟨List.cons_ne_nil _ _,?_,⟨rfl,rfl⟩,rfl,⟨rfl,rfl⟩,rfl,rfl,rfl⟩,rfl⟩
  intro other hother
  rw [List.mem_singleton.mp hother]
  exact hgap

end Correlation

/-- The first reading answers, and what it or any other reading says is wrong is in the closed vocabulary. -/
def Answerable (t : History) : Prop :=
  Vocabulary t ∧ ∃ read : DockerDirectAttestationRead, t.head? = some ⟨.readAttestation,.ok read⟩ ∧
    (read.trusted = none → gapPrefix ++ read.reason ∈ runtimeOwnerGaps)

/-- What a run may answer. A container counts as another one when `Counts` says so of what was seen of it. -/
structure Sound (validStartedAt : String → Bool) (accepted : String) (Counts : Fields → Prop) (t : History)
    (x : Except Fault RuntimeOwnerCorrelation) : Prop where
  total : ∃ owner, x = .ok owner ∧ owner.check (fun _ => true) = true
  resolved : ∀ owner, x = .ok owner → owner.status = .resolved → ∃ w : Sandwich validStartedAt accepted, t = w.history ∧
    owner = w.owner ∧ w.found.containerId ∈ w.listed ∧ MainProcess w.final w.found.process.pid ∧
    Contains w.found.process.cgroupPath accepted ∧ w.Alone Counts
  incomplete : ∀ owner, x = .ok owner → owner.status = .incomplete → Unclaimed owner

section Main

variable {validStartedAt : String → Bool} {accepted : String} {t : History} {x : Except Fault RuntimeOwnerCorrelation}

theorem Scanned.mem {identity : Identity} {listed : List String} {found : List Match}
    (h : Scanned validStartedAt accepted identity listed t found) : ∀ m ∈ found, m.containerId ∈ listed := by
  induction h with
  | nil => exact fun m hm => (nomatch hm)
  | passed hpassed more ih => exact fun m hm => .tail _ (ih m hm)
  | found hfound more ih =>
    intro m hm
    rcases List.mem_cons.mp hm with rfl | hm
    · exact .head _
    · exact .tail _ (ih m hm)

theorem Sandwich.holds (w : Sandwich validStartedAt accepted) : w.found.containerId ∈ w.listed ∧
    MainProcess w.final w.found.process.pid ∧ Contains w.found.process.cgroupPath accepted ∧ w.Alone (Dated validStartedAt) :=
  ⟨w.only.mem _ (.head _),(runtimeCandidate_ok w.still).1 _ _ rfl,
    cgroupRelation_isSome.mp (by rw [w.relation]; rfl),w.alone⟩

theorem sound_of_incomplete {gap : String} {semantic : Option DockerDirectEngineAttestation} {t' : History}
    (hgap : gap ∈ runtimeOwnerGaps) (hr : (incomplete [gap] semantic).Runs t' x) :
    Sound validStartedAt accepted (Dated validStartedAt) t x := by
  obtain ⟨owner,rfl,hcheck,hstatus,hunclaimed,-⟩ := incomplete_runs hgap hr
  refine ⟨⟨owner,rfl,hcheck⟩,fun other hother hresolved => ?_,fun other hother hincomplete => ?_⟩
  · cases hother
    rw [hstatus] at hresolved
    cases hresolved
  · cases hother
    exact hunclaimed

/-- Every run resolves one owner, proven on both sides of the pass over the containers, or claims nothing. -/
theorem correlate_sound (hr : (correlate validStartedAt accepted).Runs t x) (ha : Answerable t) :
    Sound validStartedAt accepted (Dated validStartedAt) t x := by
  obtain ⟨hvocabulary,first,hfirst,hreason⟩ := ha
  rcases Program.runs_bind hr with ⟨e,he,rfl⟩ | ⟨read,t₁,t₂,hread,hrest,rfl⟩
  · rw [ask_error he] at hfirst
    cases hfirst
  · obtain rfl := ask_ok hread
    cases hfirst
    split at hrest
    · next hnone => exact sound_of_incomplete (hreason hnone) hrest
    · next attestation htrusted =>
      have hguarded : ((guarded validStartedAt accepted attestation).tryCatch
          fun fault => incomplete [fault.gap] (some attestation)).Runs t₂ x := hrest
      rcases Program.runs_tryCatch hguarded with ⟨owner,howner,rfl⟩ | ⟨e,t₃,t₄,he,hhandler,rfl⟩
      · obtain ⟨hcheck,w,hw,hwo⟩ := guarded_ok htrusted howner
        refine ⟨⟨owner,rfl,hcheck⟩,fun other hother _ => ?_,fun other hother hincomplete => ?_⟩
        · cases hother
          exact ⟨w,hw,hwo,w.holds⟩
        · cases hother
          rw [hwo] at hincomplete
          cases hincomplete
      · have hgap := raises_guarded t₃ e he (Vocabulary.append.mp (Vocabulary.append.mp hvocabulary).2).1
        exact sound_of_incomplete hgap hhandler

end Main

section Examples

def attestation : DockerDirectEngineAttestation :=
  ⟨"docker-direct-unix-v1","docker","direct_unix","/run/docker.sock","docker.service","service_main","host_system_manager","rootful",
    "sha256:0"⟩

def invocation : String := "0123456789abcdef0123456789abcdef"

def dockerService : ProcessUnitResolution :=
  ⟨"resolved",some "docker.service",some invocation,some [("unit_type",.str "service"),("canonical_id",.str "docker.service"),
    ("load_state",.str "loaded"),("active_state",.str "active"),("sub_state",.str "running"),("transient",.bool false),
    ("current_job",.null),("invocation_id",.str invocation),
    ("service",.obj [("main_pid",.num 900),("control_group",.str "/system.slice/docker.service")])]⟩

def running (containerId : String) (pid : Int) (startedAt : String) : Fields :=
  [("Id",.str containerId),("State",.obj [("Running",.bool true),("Pid",.num pid),("StartedAt",.str startedAt)]),
    ("HostConfig",.obj [("NetworkMode",.str "host")])]

def startedAt : String := "2026-08-28T10:00:00+00:00"

/-- Two containers in the accepted cgroup, the second with a start that is no instant. -/
def party : (call : Call) → Session.Ret call
  | .readAttestation => .ok (⟨"trusted","docker_direct_unix_attestation_trusted",some attestation⟩ : DockerDirectAttestationRead)
  | .cgroupIdentity _ => .ok ((25,4711) : Identity)
  | .openSnapshot _ => .ok (⟨900,5⟩ : Peer)
  | .inspectExisting pid _ => .ok (⟨pid,100,"/system.slice/docker.service",(25,40)⟩ : PinnedProcessCgroup)
  | .pin pid => .ok (⟨pid,200,"/docker/one",(25,41)⟩ : PinnedProcessCgroup)
  | .sharesObserverPidNamespace _ | .stable _ => .ok true
  | .resolveProcessUnit _ => .ok dockerService
  | .readVersion => .ok (⟨"27.0","1.46","1.24","linux","amd64"⟩ : DockerRuntimeVersion)
  | .readInfo => .ok (⟨"engine","27.0","linux","systemd","2",false⟩ : DockerRuntimeInfo)
  | .listContainerIds => .ok (["one","two"] : List String)
  | .inspectListedContainer containerId =>
    .ok (if containerId = "one" then running "one" 5001 startedAt else running "two" 5002 "not-a-time")
  | .requirePeerLive | .closeSnapshot => .ok ()

abbrev dated (text : String) : Bool := text = startedAt

def accepted : String := "/docker/one/backend.scope"

def run : History × Except Fault RuntimeOwnerCorrelation := (correlate dated accepted).against party

theorem run_runs : (correlate dated accepted).Runs run.1 run.2 := Program.runs_against (S:=Session) party (correlate dated accepted)

theorem run_resolved : ∃ owner, run.2 = .ok owner ∧ owner.status = .resolved ∧ owner.containerId = some "one" := by
  have hrun : run.2.toOption.any (fun o => decide (o.status = .resolved) && decide (o.containerId = some "one")) = true := by
    decide +kernel
  obtain ⟨owner,howner,h⟩ := (Option.any_eq_true ..).mp hrun
  obtain ⟨hstatus,hcontainer⟩ := Bool.and_eq_true_iff.mp h
  refine ⟨owner,?_,of_decide_eq_true hstatus,of_decide_eq_true hcontainer⟩
  cases hx : run.2 with
  | ok o =>
    rw [hx] at howner
    exact congrArg _ (Option.some.inj howner)
  | error e =>
    rw [hx] at howner
    cases howner

theorem run_answers {call : Call} {a : Session.Ret call} (h : ⟨call,a⟩ ∈ run.1) : a = party call :=
  Program.against_answers (S:=Session) party (correlate dated accepted) h

theorem sound_with_two : ∃ owner, run.2 = .ok owner ∧ owner.status = .resolved ∧
    Sound dated accepted (Dated dated) run.1 run.2 := by
  obtain ⟨owner,howner,hstatus,-⟩ := run_resolved
  refine ⟨owner,howner,hstatus,correlate_sound run_runs ⟨?_,_,rfl,fun h => absurd h (by decide)⟩⟩
  rintro ⟨call,a⟩ hx fault hfault
  obtain rfl := run_answers hx
  cases call <;> cases hfault

/-- A container that runs in the host's network is passed over, its process never looked at, because of how its start is written. -/
theorem undated_container_passed : ¬∀ (validStartedAt : String → Bool) (accepted : String) (t : History)
    (x : Except Fault RuntimeOwnerCorrelation), (correlate validStartedAt accepted).Runs t x →
      Sound validStartedAt accepted (fun _ => True) t x := by
  intro hall
  obtain ⟨owner,howner,hstatus,hcontainer⟩ := run_resolved
  obtain ⟨w,hw,rfl,-,-,-,halone⟩ := (hall dated accepted run.1 run.2 run_runs).resolved owner howner hstatus
  have hlisted : (⟨.listContainerIds,.ok w.listed⟩ : Exchange Session) ∈ run.1 := by
    rw [hw]
    exact List.mem_append_left _ (List.mem_append_left _ (by simp [Sandwich.opening]))
  have htwo : "two" ∈ w.listed := by
    have heq : (.ok w.listed : Except Fault (List String)) = .ok ["one","two"] := run_answers hlisted
    rw [Except.ok.inj heq]
    decide
  have hother : "two" ≠ w.found.containerId := by
    have hone : some w.found.containerId = some "one" := hcontainer
    rw [Option.some.inj hone]
    decide
  obtain ⟨inspected,hin,hrest⟩ := halone "two" htwo hother
  rw [← hw] at hin hrest
  have hseen : (.ok inspected : Except Fault Fields) = .ok (running "two" 5002 "not-a-time") := run_answers hin
  cases hseen
  obtain ⟨pinned,hpin,-⟩ := hrest 5002 ⟨_,_,rfl,rfl,rfl,rfl,rfl,by decide⟩ trivial
  have hnever : (run.1.any fun e => match e.1 with | .pin pid => decide (pid = 5002) | _ => false) = false := by decide +kernel
  exact absurd (List.any_eq_true.mpr ⟨_,hpin,rfl⟩) (by rw [hnever]; decide)

end Examples

end Correlated
end LocalPlane
