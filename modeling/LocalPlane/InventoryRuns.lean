import LocalPlane.InventoryFlow

/-!
# The container inventory flow, over whole runs

Requests settle, their continuations run and the screen is pressed in any order. The invariant
says which calls are still to be waited for, and from which result and which read an
outcome was made.
-/

set_option linter.dupNamespace false

namespace LocalPlane
namespace InventoryFlow
open LineProtocol RequestSharing

variable {L : Type} {s s' : State L}

/-- An outcome that speaks of a result speaks of the newest one acknowledged, and a list beside it was read by a
call that was begun after that. -/
def Grounded (s : State L) : Option (Outcome L) → Prop
  | some (.reading result) => ∃ mark, s.acknowledged = some (result,mark)
  | some (.rereadFailed result _) => ∃ mark, s.acknowledged = some (result,mark)
  | some (.settled phase result list) => phase = resultPhase result ∧ ∃ mark, s.acknowledged = some (result,mark) ∧
      mark ≤ list.read ∧ ∃ read, s.reads list.read = some read ∧ read.answer = some (.body list.data)
  | _ => True

/-- While the screen is there: it rests once nothing is in flight, one inventory is asked for at a time, and
outcomes are grounded. -/
structure Sound (s : State L) : Prop where
  resting : (∀ p post, s.posts p = some post → post.stage.inFlight = false) →
    (∀ i read, s.reads i = some read → read.returned ≠ none) → s.resource.pending = false
  single : ∀ p q post post', s.posts p = some post → s.posts q = some post' → post.stage.inFlight = true →
    post'.stage.inFlight = true → p = q
  grounded : Grounded s s.outcome

/-- What is held and what is shown are left alone. -/
def Unchanged (s s' : State L) : Prop :=
  s'.stored = s.stored ∧ s'.resource = s.resource ∧ s'.outcome = s.outcome ∧ s'.storedReadError = s.storedReadError

/-- The steps of one stored read. -/
def Act.ofRead (i : ℕ) : Act L → Prop
  | .settleRead j _ => j = i
  | .resumeRead j _ => j = i
  | .concludeRead j => j = i
  | _ => False

/-- The newest stored read has not returned. -/
def newestWaiting (s : State L) : Bool :=
  (List.range s.started).any fun i => (s.reads i).any fun read => read.requestSequence = s.readSequence && read.returned.isNone

/-- Whether what follows the `await` ends in the `catch`. -/
def throws : Settled (Option Json) → Bool
  | .failed _ => true
  | .body body => (fieldsOf body).toOption.isNone

/-- What a stored read returned is gone on with while that read is the newest, and an inventory request that fails
finds a list held, a resource at rest, or the newest stored read still to return. -/
def allowed (s : State L) : Act L → Bool
  | .concludeRead i => (s.reads i).all fun read => read.returned.all (·.isStale) || read.requestSequence = s.readSequence
  | .resumePost p => (s.posts p).all fun post =>
    match post.stage with
    | .answered answer => !throws answer || s.stored.isSome || !s.resource.pending || newestWaiting s
    | _ => true
  | _ => true

/-- What holds apart from what is displayed. -/
structure Steady (s : State L) : Prop where
  known : ∀ i read, s.reads i = some read → i < s.started ∧ read.requestSequence ≤ s.readSequence
  uncut : ∀ i read, s.reads i = some read → read.requestSequence = s.readSequence → read.aborted = false
  possible : ∀ i read answer, s.reads i = some read → read.answer = some answer → possible read.aborted answer = true
  listed : ∀ i read list, s.reads i = some read → read.returned = some (.success list) →
    list.read = i ∧ read.answer = some (.body list.data)
  posts : ∀ p post, s.posts p = some post → post.aborted = false ∧
    (post.stage.running = true → p = s.flow ∧ s.observationInFlight = true)
  answers : ∀ p post answer, s.posts p = some post → post.stage = .answered answer → InventoryFlow.possible false answer = true
  acknowledged : ∀ p post result, s.posts p = some post → post.stage = .reading result →
    ∃ mark, s.acknowledged = some (result,mark)
  observing : ∀ p post, s.posts p = some post → post.stage.inFlight = true →
    s.outcome = some .observing ∧ s.rendered = some .observing
  newest : ∀ result mark, s.acknowledged = some (result,mark) → mark ≤ s.started ∧
    ∀ i read, s.reads i = some read → read.requestSequence = s.readSequence → mark ≤ i
  outcome : Grounded s s.outcome
  rendered : Grounded s s.rendered

/-- Something is waited for whenever the resource is not at rest. -/
def Resting (s : State L) : Prop :=
  s.resource.pending = true → (∃ p post, s.posts p = some post ∧ post.stage.inFlight = true) ∨
    ∃ i read, s.reads i = some read ∧ read.requestSequence = s.readSequence ∧ read.returned = none

section Frames

theorem Grounded.mono {o : Option (Outcome L)} (h : Grounded s o)
    (hreads : ∀ i read data, s.reads i = some read → read.answer = some (.body data) →
      ∃ read', s'.reads i = some read' ∧ read'.answer = some (.body data))
    (hack : s'.acknowledged = s.acknowledged) : Grounded s' o := by
  match o,h with
  | none,_ => trivial
  | some .observing,_ => trivial
  | some (.observationFailed _),_ => trivial
  | some (.observationUncertain _),_ => trivial
  | some (.reading _),⟨mark,h⟩ => exact ⟨mark,hack.trans h⟩
  | some (.rereadFailed _ _),⟨mark,h⟩ => exact ⟨mark,hack.trans h⟩
  | some (.settled _ _ list),⟨hphase,mark,hmark,hle,read,hread,hanswer⟩ =>
    exact ⟨hphase,mark,hack.trans hmark,hle,hreads list.read read list.data hread hanswer⟩

/-- What is displayed, and who can be aborted, has no part in it. -/
theorem Steady.display (h : Steady s) (stored : Option (StoredList L)) (resource : Resource L) (error : Option ApiError)
    (reads posts : Finset ℕ) :
    Steady { s with stored,resource,storedReadError := error,storedControllers := reads,postControllers := posts } :=
  ⟨h.known,h.uncut,h.possible,h.listed,h.posts,h.answers,h.acknowledged,h.observing,h.newest,h.outcome,h.rendered⟩

theorem Steady.single (h : Steady s) {p q : ℕ} {post post' : Post} (hp : s.posts p = some post) (hq : s.posts q = some post')
    (hrun : post.stage.running = true) (hrun' : post'.stage.running = true) : p = q :=
  ((h.posts p post hp).2 hrun).1.trans ((h.posts q post' hq).2 hrun').1.symm

theorem running_of_inFlight {stage : Stage} (h : stage.inFlight = true) : stage.running = true := by
  cases stage <;> first | rfl | cases h

theorem Steady.setOutcome (h : Steady s) {o : Option (Outcome L)} (ho : Grounded s o)
    (hquiet : ∀ p post, s.posts p = some post → post.stage.inFlight = true → o = some .observing) :
    Steady { s with outcome := o } :=
  ⟨h.known,h.uncut,h.possible,h.listed,h.posts,h.answers,h.acknowledged,
    fun p post hp hf => ⟨hquiet p post hp hf,(h.observing p post hp hf).2⟩,h.newest,ho,h.rendered⟩

/-- A stored read is begun. -/
theorem Steady.start (h : Steady s) (consumer : Consumer) : Steady (startStoredRead consumer s) := by
  have hold : ∀ {i read}, (startStoredRead consumer s).reads i = some read → i ≠ s.started → s.reads i = some read := by
    intro i read hread hne
    simpa [startStoredRead,Function.update_of_ne hne] using hread
  have hnew : ∀ {read}, (startStoredRead consumer s).reads s.started = some read →
      read = ⟨s.readSequence + 1,s.stored,consumer,false,none,none,false⟩ := by
    intro read hread
    simpa [startStoredRead,eq_comm] using hread
  have hkeep : ∀ i read data, s.reads i = some read → read.answer = some (.body data) →
      ∃ read', (startStoredRead consumer s).reads i = some read' ∧ read'.answer = some (.body data) := by
    intro i read data hread hanswer
    exact ⟨read,by simpa [startStoredRead,Function.update_of_ne (h.known i read hread).1.ne] using hread,hanswer⟩
  refine ⟨fun i read hread => ?_,fun i read hread hseq => ?_,fun i read answer hread hanswer => ?_,
    fun i read list hread hreturned => ?_,h.posts,h.answers,h.acknowledged,h.observing,fun result mark hmark => ?_,
    h.outcome.mono hkeep rfl,h.rendered.mono hkeep rfl⟩
  · by_cases hi : i = s.started
    · subst hi
      rw [hnew hread]
      exact ⟨Nat.lt_succ_self _,le_rfl⟩
    · obtain ⟨hlt,hle⟩ := h.known i read (hold hread hi)
      exact ⟨Nat.lt_succ_of_lt hlt,Nat.le_succ_of_le hle⟩
  · by_cases hi : i = s.started
    · subst hi
      rw [hnew hread]
    · exact absurd hseq (Nat.lt_succ_of_le (h.known i read (hold hread hi)).2).ne
  · by_cases hi : i = s.started
    · subst hi
      rw [hnew hread] at hanswer
      cases hanswer
    · exact h.possible i read answer (hold hread hi) hanswer
  · by_cases hi : i = s.started
    · subst hi
      rw [hnew hread] at hreturned
      cases hreturned
    · exact h.listed i read list (hold hread hi) hreturned
  · refine ⟨Nat.le_succ_of_le (h.newest result mark hmark).1,fun i read hread hseq => ?_⟩
    by_cases hi : i = s.started
    · exact hi ▸ (h.newest result mark hmark).1
    · exact absurd hseq (Nat.lt_succ_of_le (h.known i read (hold hread hi)).2).ne

theorem resting_start (consumer : Consumer) (s : State L) : Resting (startStoredRead consumer s) :=
  fun _ => .inr ⟨s.started,_,Function.update_self ..,rfl,rfl⟩

/-- A stored read goes on. -/
theorem Steady.revise {i : ℕ} {read read' : Read L} (h : Steady s) (hread : s.reads i = some read)
    (hseq : read'.requestSequence = read.requestSequence) (habort : read'.aborted = read.aborted)
    (hanswer : ∀ answer, read.answer = some answer → read'.answer = some answer)
    (hpossible : ∀ answer, read'.answer = some answer → InventoryFlow.possible read.aborted answer = true)
    (hlisted : ∀ list, read'.returned = some (.success list) → list.read = i ∧ read'.answer = some (.body list.data)) :
    Steady (keepRead i read' s) := by
  have hcases : ∀ {j other}, (keepRead i read' s).reads j = some other → j = i ∧ other = read' ∨ s.reads j = some other := by
    intro j other hother
    by_cases hj : j = i
    · subst hj
      simp only [keepRead,Function.update_self,Option.some.injEq] at hother
      exact .inl ⟨rfl,hother.symm⟩
    · simp only [keepRead,Function.update_of_ne hj] at hother
      exact .inr hother
  have hkeep : ∀ j other data, s.reads j = some other → other.answer = some (.body data) →
      ∃ other', (keepRead i read' s).reads j = some other' ∧ other'.answer = some (.body data) := by
    intro j other data hother hdata
    by_cases hj : j = i
    · subst hj
      rw [hread] at hother
      cases hother
      exact ⟨read',Function.update_self ..,hanswer _ hdata⟩
    · exact ⟨other,by simpa [keepRead,Function.update_of_ne hj] using hother,hdata⟩
  refine ⟨fun j other hother => ?_,fun j other hother hnew => ?_,fun j other answer hother ha => ?_,
    fun j other list hother hr => ?_,h.posts,h.answers,h.acknowledged,h.observing,fun result mark hmark => ?_,
    h.outcome.mono hkeep rfl,h.rendered.mono hkeep rfl⟩
  · rcases hcases hother with ⟨rfl,rfl⟩ | hother
    · exact hseq ▸ h.known j read hread
    · exact h.known j other hother
  · rcases hcases hother with ⟨rfl,rfl⟩ | hother
    · exact habort.trans (h.uncut j read hread (hseq ▸ hnew))
    · exact h.uncut j other hother hnew
  · rcases hcases hother with ⟨rfl,rfl⟩ | hother
    · exact habort ▸ hpossible answer ha
    · exact h.possible j other answer hother ha
  · rcases hcases hother with ⟨rfl,rfl⟩ | hother
    · exact hlisted list hr
    · exact h.listed j other list hother hr
  · refine ⟨(h.newest result mark hmark).1,fun j other hother hnew => ?_⟩
    rcases hcases hother with ⟨rfl,rfl⟩ | hother
    · exact (h.newest result mark hmark).2 j read hread (hseq ▸ hnew)
    · exact (h.newest result mark hmark).2 j other hother hnew

/-- An inventory request is over. -/
theorem Steady.finish (h : Steady s) (p : ℕ) : Steady (finish p s) := by
  have hcases : ∀ {q post}, (InventoryFlow.finish p s).posts q = some post →
      (q ≠ p ∧ s.posts q = some post) ∨ q = p ∧ ∃ old, s.posts p = some old ∧ post = { old with stage := .done } := by
    intro q post hpost
    by_cases hq : q = p
    · subst hq
      simp only [InventoryFlow.finish,Function.update_self] at hpost
      obtain ⟨old,hold,rfl⟩ := Option.map_eq_some_iff.mp hpost
      exact .inr ⟨rfl,old,hold,rfl⟩
    · simp only [InventoryFlow.finish,Function.update_of_ne hq] at hpost
      exact .inl ⟨hq,hpost⟩
  refine ⟨h.known,h.uncut,h.possible,h.listed,fun q post hpost => ?_,fun q post answer hpost hstage => ?_,
    fun q post result hpost hstage => ?_,fun q post hpost hf => ?_,h.newest,h.outcome,h.rendered⟩
  · rcases hcases hpost with ⟨hq,hpost⟩ | ⟨rfl,old,hold,rfl⟩
    · refine ⟨(h.posts q post hpost).1,fun hrun => ?_⟩
      obtain ⟨hflow,hon⟩ := (h.posts q post hpost).2 hrun
      refine ⟨hflow,?_⟩
      simp only [InventoryFlow.finish]
      rw [if_neg fun he => hq (hflow.trans he.symm),hon]
    · exact ⟨(h.posts q old hold).1,fun hrun => by cases hrun⟩
  · rcases hcases hpost with ⟨hq,hpost⟩ | ⟨rfl,old,hold,rfl⟩
    · exact h.answers q post answer hpost hstage
    · cases hstage
  · rcases hcases hpost with ⟨hq,hpost⟩ | ⟨rfl,old,hold,rfl⟩
    · exact h.acknowledged q post result hpost hstage
    · cases hstage
  · rcases hcases hpost with ⟨hq,hpost⟩ | ⟨rfl,old,hold,rfl⟩
    · exact h.observing q post hpost hf
    · cases hf

end Frames

section Steps

/-- What a step of the screen has to leave standing. -/
def Inv (s : State L) : Prop := s.alive = true → Steady s ∧ Resting s

theorem inv_initial : Inv (initial : State L) := by
  intro _
  refine ⟨?_,resting_start _ _⟩
  have hblank : Steady (blank : State L) := ⟨fun _ _ h => (by cases h),fun _ _ h => (by cases h),fun _ _ _ h => (by cases h),
    fun _ _ _ h => (by cases h),fun _ _ h => (by cases h),fun _ _ _ h => (by cases h),fun _ _ _ h => (by cases h),
    fun _ _ h => (by cases h),fun _ _ h => (by cases h),trivial,trivial⟩
  exact hblank.start _

theorem inv_start {consumer : Consumer} (h : Inv s) : Inv (startStoredRead consumer s) :=
  fun halive => ⟨(h halive).1.start consumer,resting_start consumer s⟩

theorem inv_retryStoredRead (h : Inv s) : Inv (retryStoredRead s) := by
  intro halive
  obtain ⟨hs,_⟩ := h halive
  refine ⟨Steady.start ?_ _,resting_start _ _⟩
  split
  · next result error hrendered =>
    have hgrounded : Grounded s (some (.reading result)) := by
      have := hs.rendered
      rwa [hrendered] at this
    refine ⟨hs.known,hs.uncut,hs.possible,hs.listed,hs.posts,hs.answers,hs.acknowledged,fun p post hp hf => ?_,hs.newest,
      hgrounded,hgrounded⟩
    have := (hs.observing p post hp hf).2
    rw [hrendered] at this
    cases this
  · exact ⟨hs.known,hs.uncut,hs.possible,hs.listed,hs.posts,hs.answers,hs.acknowledged,
      fun p post hp hf => ⟨(hs.observing p post hp hf).1,(hs.observing p post hp hf).1⟩,hs.newest,hs.outcome,hs.outcome⟩

theorem possible_or {α : Type} {a b : Bool} {answer : Settled α} (h : possible a answer = true) :
    possible (a || b) answer = true := by
  cases answer with
  | body data => rfl
  | failed cause =>
    simp only [possible,Bool.or_eq_true] at h ⊢
    exact h.imp_right .inl

/-- A press supersedes whatever is being read. -/
theorem inv_refreshInventory (h : Inv s) : Inv (refreshInventory s) := by
  unfold refreshInventory
  split
  · exact h
  · next hoff =>
    intro halive
    obtain ⟨hs,_⟩ := h halive
    have hmap : ∀ {i read}, (abortReads s).reads i = some read → ∃ old, s.reads i = some old ∧
        read = { old with aborted := old.aborted || decide (i ∈ s.storedControllers) } := by
      intro i read hread
      obtain ⟨old,hold,he⟩ := Option.map_eq_some_iff.mp hread
      exact ⟨old,hold,he.symm⟩
    have hposts : ∀ {q post}, Function.update s.posts (s.flow + 1) (some ⟨.requested,false⟩) q = some post →
        q = s.flow + 1 ∧ post = ⟨.requested,false⟩ ∨ s.posts q = some post ∧ post.stage.running = false := by
      intro q post hpost
      by_cases hq : q = s.flow + 1
      · subst hq
        simp only [Function.update_self,Option.some.injEq] at hpost
        exact .inl ⟨rfl,hpost.symm⟩
      · simp only [Function.update_of_ne hq] at hpost
        cases hrun : post.stage.running with
        | false => exact .inr ⟨hpost,rfl⟩
        | true => exact absurd ((hs.posts q post hpost).2 hrun).2 hoff
    refine ⟨⟨fun i read hread => ?_,fun i read hread hseq => ?_,fun i read answer hread hanswer => ?_,
      fun i read list hread hreturned => ?_,fun q post hpost => ?_,fun q post answer hpost hstage => ?_,
      fun q post result hpost hstage => ?_,fun _ _ _ _ => ⟨rfl,rfl⟩,fun result mark hmark => ⟨?_,fun i read hread hseq => ?_⟩,
      trivial,trivial⟩,fun _ => .inl ⟨s.flow + 1,_,Function.update_self ..,rfl⟩⟩
    · obtain ⟨old,hold,rfl⟩ := hmap hread
      exact ⟨(hs.known i old hold).1,Nat.le_succ_of_le (hs.known i old hold).2⟩
    · obtain ⟨old,hold,rfl⟩ := hmap hread
      exact absurd hseq (Nat.lt_succ_of_le (hs.known i old hold).2).ne
    · obtain ⟨old,hold,rfl⟩ := hmap hread
      exact possible_or (hs.possible i old answer hold hanswer)
    · obtain ⟨old,hold,rfl⟩ := hmap hread
      exact hs.listed i old list hold hreturned
    · rcases hposts hpost with ⟨rfl,rfl⟩ | ⟨hpost,hrun⟩
      · exact ⟨rfl,fun _ => ⟨rfl,rfl⟩⟩
      · exact ⟨(hs.posts q post hpost).1,fun hr => by rw [hrun] at hr; cases hr⟩
    · rcases hposts hpost with ⟨rfl,rfl⟩ | ⟨hpost,_⟩
      · cases hstage
      · exact hs.answers q post answer hpost hstage
    · rcases hposts hpost with ⟨rfl,rfl⟩ | ⟨hpost,_⟩
      · cases hstage
      · exact hs.acknowledged q post result hpost hstage
    · exact (hs.newest result mark hmark).1
    · obtain ⟨old,hold,rfl⟩ := hmap hread
      exact absurd hseq (Nat.lt_succ_of_le (hs.known i old hold).2).ne

theorem inv_render (h : Inv s) : Inv { s with rendered := s.outcome } := by
  intro halive
  obtain ⟨hs,hrest⟩ := h halive
  exact ⟨⟨hs.known,hs.uncut,hs.possible,hs.listed,hs.posts,hs.answers,hs.acknowledged,
    fun p post hp hf => ⟨(hs.observing p post hp hf).1,(hs.observing p post hp hf).1⟩,hs.newest,hs.outcome,hs.outcome⟩,hrest⟩

theorem inv_settleRead {i : ℕ} {answer : Settled L} (h : Inv s) (hs : step (.settleRead i answer) s = some s') : Inv s' := by
  obtain ⟨read,hread,hs⟩ := Option.bind_eq_some_iff.mp hs
  split at hs
  · next hopen =>
    cases hs
    intro halive
    obtain ⟨hsteady,hrest⟩ := h halive
    rw [Bool.and_eq_true] at hopen
    have hnone : read.answer = none := Option.isNone_iff_eq_none.mp hopen.1
    refine ⟨hsteady.revise hread rfl rfl (fun a ha => by rw [hnone] at ha; cases ha) (fun a ha => ?_) fun list hr => ?_,
      fun hp => ?_⟩
    · cases ha
      exact hopen.2
    · have := (hsteady.listed i read list hread hr).2
      rw [hnone] at this
      cases this
    · rcases hrest hp with hpost | ⟨j,other,hother,hseq,hreturned⟩
      · exact .inl hpost
      · right
        by_cases hj : j = i
        · subst hj
          rw [hread] at hother
          cases hother
          exact ⟨j,_,Function.update_self ..,hseq,hreturned⟩
        · exact ⟨j,other,by simpa [keepRead,Function.update_of_ne hj] using hother,hseq,hreturned⟩
  · cases hs

/-- A stored read that is no longer the newest returns `stale`, and nothing else. -/
theorem returns_stale {i now : ℕ} {read : Read L} {answer : Settled L} (hseq : read.requestSequence ≠ s.readSequence) :
    returns i read now answer s = (.stale,s) := by
  cases answer <;> simp [returns,hseq]

/-- The newest one puts the resource to rest. -/
theorem returns_newest {i now : ℕ} {read : Read L} {answer : Settled L} (halive : s.alive = true)
    (hseq : read.requestSequence = s.readSequence) (huncut : read.aborted = false)
    (hpossible : possible read.aborted answer = true) :
    ∃ r stored error resource, returns i read now answer s = (r,{ s with stored,storedReadError := error,resource }) ∧
      resource.pending = false ∧ ∀ list, r = .success list → list.read = i ∧ answer = .body list.data := by
  cases answer with
  | body data =>
    refine ⟨.success ⟨i,data⟩,some ⟨⟨i,data⟩,now⟩,none,.success ⟨⟨i,data⟩,now⟩ false,by simp [returns,halive,hseq],rfl,
      fun list hlist => ?_⟩
    cases hlist
    exact ⟨rfl,rfl⟩
  | failed cause =>
    have hkind : (asApiError cause containersPath).kind ≠ .cancelled := by
      cases cause with
      | thrown message => simp [asApiError,toApiError]
      | api error => simpa [huncut,InventoryFlow.possible,cancels,asApiError,toApiError] using hpossible
    refine ⟨.failed (asApiError cause containersPath),s.stored,some (asApiError cause containersPath),
      read.previous.elim (.failed (asApiError cause containersPath)) (.success · false),
      by simp [returns,halive,hseq,hkind,huncut],?_,fun list hlist => by cases hlist⟩
    cases read.previous <;> rfl

theorem inv_resumeRead {i now : ℕ} (h : Inv s) (hs : step (.resumeRead i now) s = some s') : Inv s' := by
  obtain ⟨read,hread,hs⟩ := Option.bind_eq_some_iff.mp hs
  split at hs
  · cases hs
  · next hopen =>
    obtain ⟨answer,hanswer,rfl⟩ := Option.map_eq_some_iff.mp hs
    by_cases hseq : read.requestSequence = s.readSequence
    · intro halive
      have halive' : s.alive = true := by
        cases answer <;> simp only [keepRead,returns] at halive <;> split at halive <;> exact halive
      obtain ⟨hsteady,_⟩ := h halive'
      obtain ⟨r,stored,error,resource,hreturns,hrests,hlist⟩ := @returns_newest _ _ i now _ _ halive' hseq
        (hsteady.uncut i read hread hseq) (hsteady.possible i read answer hread hanswer)
      rw [hreturns]
      refine ⟨Steady.revise (hsteady.display stored resource error _ _) hread rfl rfl (fun a ha => ha)
        (fun a ha => hsteady.possible i read a hread ha) fun list hr => ?_,fun hp => ?_⟩
      · obtain ⟨hi,rfl⟩ := hlist list (Option.some.inj hr)
        exact ⟨hi,hanswer⟩
      · rw [show resource.pending = true from hp] at hrests
        cases hrests
    · rw [returns_stale hseq]
      intro halive
      obtain ⟨hsteady,hrest⟩ := h halive
      refine ⟨Steady.revise (hsteady.display _ _ _ _ _) hread rfl rfl (fun a ha => ha)
        (fun a ha => hsteady.possible i read a hread ha) (fun list hr => by cases hr),fun hp => ?_⟩
      rcases hrest hp with hpost | ⟨j,other,hother,hnew,hreturned⟩
      · exact .inl hpost
      · have hj : j ≠ i := by
          rintro rfl
          rw [hread] at hother
          cases hother
          exact hseq hnew
        exact .inr ⟨j,other,by simpa [keepRead,Function.update_of_ne hj] using hother,hnew,hreturned⟩

theorem Resting.revise {i : ℕ} {read read' : Read L} (h : Resting s) (hread : s.reads i = some read)
    (hseq : read'.requestSequence = read.requestSequence) (hreturned : read'.returned = read.returned) :
    Resting (keepRead i read' s) := by
  intro hp
  rcases h hp with hpost | ⟨j,other,hother,hnew,hnone⟩
  · exact .inl hpost
  · right
    by_cases hj : j = i
    · subst hj
      rw [hread] at hother
      cases hother
      exact ⟨j,read',Function.update_self ..,hseq.trans hnew,hreturned.trans hnone⟩
    · exact ⟨j,other,by simpa [keepRead,Function.update_of_ne hj] using hother,hnew,hnone⟩

/-- The end of a request that was not in flight any more takes nothing away that is waited for. -/
theorem Resting.finish (h : Resting s) {p : ℕ} {post : Post} (hpost : s.posts p = some post)
    (hstage : post.stage.inFlight = false) : Resting (finish p s) := by
  intro hp
  rcases h hp with ⟨q,other,hother,hf⟩ | hread
  · have hq : q ≠ p := by
      rintro rfl
      rw [hpost] at hother
      cases hother
      rw [hstage] at hf
      cases hf
    exact .inl ⟨q,other,by simpa [InventoryFlow.finish,Function.update_of_ne hq] using hother,hf⟩
  · exact .inr hread

/-- Read after the acknowledgement or not, a list the newest stored read returned goes with the newest result. -/
theorem grounded_settled {i : ℕ} {read : Read L} {list : Listing L} {result : Json} (h : Steady s)
    (hread : s.reads i = some read) (hseq : read.requestSequence = s.readSequence)
    (hreturned : read.returned = some (.success list)) (hack : ∃ mark, s.acknowledged = some (result,mark)) :
    Grounded s (some (.settled (resultPhase result) result list)) := by
  obtain ⟨mark,hack⟩ := hack
  obtain ⟨rfl,hanswer⟩ := h.listed i read list hread hreturned
  exact ⟨rfl,mark,hack,(h.newest result mark hack).2 list.read read hread hseq,read,hread,hanswer⟩

theorem grounded_settleReadingOutcome {i : ℕ} {read : Read L} {returned : StoredRead L} (h : Steady s)
    (hread : s.reads i = some read) (hnew : returned.isStale = true ∨ read.requestSequence = s.readSequence)
    (hreturned : read.returned = some returned) : Grounded s (settleReadingOutcome returned s.outcome) := by
  have hgrounded := h.outcome
  unfold settleReadingOutcome
  split
  · next list result houtcome =>
    rw [houtcome] at hgrounded
    exact grounded_settled h hread (hnew.resolve_left (by simp [StoredRead.isStale])) hreturned hgrounded
  · next list result error houtcome =>
    rw [houtcome] at hgrounded
    exact grounded_settled h hread (hnew.resolve_left (by simp [StoredRead.isStale])) hreturned hgrounded
  · next error result houtcome =>
    rw [houtcome] at hgrounded
    exact hgrounded
  · exact hgrounded

theorem conclude_stale (p : ℕ) (result : Json) (s : State L) : conclude p result .stale s = s := by
  unfold conclude
  split <;> rfl

theorem conclude_cases (p : ℕ) (result : Json) (returned : StoredRead L) (s : State L) :
    ∃ o, conclude p result returned s = { s with outcome := o } ∧ (o = s.outcome ∨
      (∃ list, returned = .success list ∧ o = some (.settled (resultPhase result) result list)) ∨
      ∃ error, returned = .failed error ∧ o = some (.rereadFailed result error)) := by
  unfold conclude
  split
  · exact ⟨_,rfl,.inl rfl⟩
  · cases returned with
    | stale => exact ⟨_,rfl,.inl rfl⟩
    | success list => exact ⟨_,rfl,.inr (.inl ⟨list,rfl,rfl⟩)⟩
    | failed error => exact ⟨_,rfl,.inr (.inr ⟨error,rfl,rfl⟩)⟩

/-- The flow goes on with the read it waited for. -/
theorem concluded_flow {i p : ℕ} {read : Read L} {returned : StoredRead L} {post : Post} {result : Json} (h : Steady s)
    (hrest : Resting s) (hread : s.reads i = some read)
    (hnew : returned.isStale = true ∨ read.requestSequence = s.readSequence) (hreturned : read.returned = some returned)
    (hpost : s.posts p = some post) (hstage : post.stage = .reading result) :
    Steady (finish p (conclude p result returned s)) ∧ Resting (finish p (conclude p result returned s)) := by
  obtain ⟨o,ho,hcases⟩ := conclude_cases p result returned s
  rw [ho]
  have hack := h.acknowledged p post result hpost hstage
  have hquiet : ∀ q other, s.posts q = some other → other.stage.inFlight = true → False := by
    intro q other hother hf
    have hq := h.single hother hpost (running_of_inFlight hf) (by rw [hstage]; rfl)
    subst hq
    rw [hpost] at hother
    cases hother
    rw [hstage] at hf
    cases hf
  have hgrounded : Grounded s o := by
    rcases hcases with rfl | ⟨list,rfl,rfl⟩ | ⟨error,_,rfl⟩
    · exact h.outcome
    · exact grounded_settled h hread (hnew.resolve_left (by simp [StoredRead.isStale])) hreturned hack
    · exact hack
  have hset := h.setOutcome hgrounded fun q other hq hf => (hquiet q other hq hf).elim
  exact ⟨hset.finish p,Resting.finish (s := { s with outcome := o }) hrest hpost (by rw [hstage]; rfl)⟩

theorem inv_concludeRead {i : ℕ} (h : Inv s) (hal : allowed s (.concludeRead i) = true)
    (hs : step (.concludeRead i) s = some s') : Inv s' := by
  obtain ⟨read,hread,hs⟩ := Option.bind_eq_some_iff.mp hs
  split at hs
  · cases hs
  · obtain ⟨returned,hreturned,hs⟩ := Option.bind_eq_some_iff.mp hs
    have hnew : returned.isStale = true ∨ read.requestSequence = s.readSequence := by
      simpa [allowed,hread,hreturned] using hal
    -- the read itself is only marked
    have hmarked : Inv (keepRead i { read with concluded := true } s) := fun halive =>
      ⟨(h halive).1.revise hread rfl rfl (fun a ha => ha) (fun a ha => (h halive).1.possible i read a hread ha)
        fun list hr => (h halive).1.listed i read list hread hr,(h halive).2.revise hread rfl rfl⟩
    have hread' : (keepRead i { read with concluded := true } s).reads i = some { read with concluded := true } :=
      Function.update_self ..
    have hnew' : returned.isStale = true ∨ ({ read with concluded := true } : Read L).requestSequence =
      (keepRead i { read with concluded := true } s).readSequence := hnew
    have hreturned' : ({ read with concluded := true } : Read L).returned = some returned := hreturned
    generalize { read with concluded := true } = marked at hs hmarked hread' hnew' hreturned'
    generalize keepRead i marked s = t at hs hmarked hread' hnew'
    cases hconsumer : read.consumer with
    | nobody =>
      simp only [hconsumer,Option.some.injEq] at hs
      exact hs ▸ hmarked
    | settleReadingOutcome =>
      simp only [hconsumer,Option.some.injEq] at hs
      subst hs
      intro halive
      obtain ⟨hsteady,hrest⟩ := hmarked halive
      refine ⟨hsteady.setOutcome (grounded_settleReadingOutcome hsteady hread' hnew' hreturned') fun p post hp hf => ?_,hrest⟩
      rw [(hsteady.observing p post hp hf).1]
      cases returned <;> rfl
    | flow p =>
      simp only [hconsumer] at hs
      obtain ⟨post,hpost,hs⟩ := Option.bind_eq_some_iff.mp hs
      split at hs
      · next result hstage =>
        cases hs
        intro hafter
        have halive : t.alive = true := by
          obtain ⟨o,ho,_⟩ := conclude_cases p result returned t
          rw [ho] at hafter
          exact hafter
        obtain ⟨hsteady,hrest⟩ := hmarked halive
        exact concluded_flow hsteady hrest hread' hnew' hreturned' hpost hstage
      · cases hs

theorem inv_settlePost {p : ℕ} {answer : Settled (Option Json)} (h : Inv s)
    (hs : step (.settlePost p answer) s = some s') : Inv s' := by
  obtain ⟨post,hpost,hs⟩ := Option.bind_eq_some_iff.mp hs
  split at hs
  · next hstage =>
    split at hs
    · next hpossible =>
      cases hs
      intro halive
      obtain ⟨hsteady,hrest⟩ := h halive
      have hcases : ∀ {q other}, Function.update s.posts p (some { post with stage := .answered answer }) q = some other →
          q = p ∧ other = { post with stage := .answered answer } ∨ s.posts q = some other := by
        intro q other hother
        by_cases hq : q = p
        · subst hq
          simp only [Function.update_self,Option.some.injEq] at hother
          exact .inl ⟨rfl,hother.symm⟩
        · simp only [Function.update_of_ne hq] at hother
          exact .inr hother
      obtain ⟨habort,hflow⟩ := hsteady.posts p post hpost
      refine ⟨⟨hsteady.known,hsteady.uncut,hsteady.possible,hsteady.listed,fun q other hother => ?_,
        fun q other a hother ha => ?_,fun q other result hother hr => ?_,fun q other hother hf => ?_,hsteady.newest,
        hsteady.outcome,hsteady.rendered⟩,fun _ => .inl ⟨p,_,Function.update_self ..,rfl⟩⟩
      · rcases hcases hother with ⟨rfl,rfl⟩ | hother
        · exact ⟨habort,fun _ => hflow (by rw [hstage]; rfl)⟩
        · exact hsteady.posts q other hother
      · rcases hcases hother with ⟨rfl,rfl⟩ | hother
        · cases ha
          exact habort ▸ hpossible
        · exact hsteady.answers q other a hother ha
      · rcases hcases hother with ⟨rfl,rfl⟩ | hother
        · cases hr
        · exact hsteady.acknowledged q other result hother hr
      · rcases hcases hother with ⟨rfl,rfl⟩ | hother
        · exact hsteady.observing q post hpost (by rw [hstage]; rfl)
        · exact hsteady.observing q other hother hf
    · cases hs
  · cases hs

/-- A result is acknowledged, and every read that may still be gone on with begins after it. -/
theorem Steady.acknowledge (h : Steady s) {p : ℕ} {post : Post} {value : Json} {mark : ℕ} (hpost : s.posts p = some post)
    (hf : post.stage.inFlight = true) (hmark : mark ≤ s.started)
    (hnewest : ∀ i read, s.reads i = some read → read.requestSequence = s.readSequence → mark ≤ i) :
    Steady { s with
      outcome := some (.reading value)
      posts := Function.update s.posts p (some { post with stage := .reading value })
      acknowledged := some (value,mark) } := by
  have hrun := running_of_inFlight hf
  have hcases : ∀ {q other}, Function.update s.posts p (some { post with stage := .reading value }) q = some other →
      q = p ∧ other = { post with stage := .reading value } ∨ s.posts q = some other ∧ other.stage.running = false := by
    intro q other hother
    by_cases hq : q = p
    · subst hq
      simp only [Function.update_self,Option.some.injEq] at hother
      exact .inl ⟨rfl,hother.symm⟩
    · simp only [Function.update_of_ne hq] at hother
      cases hr : other.stage.running with
      | false => exact .inr ⟨hother,rfl⟩
      | true => exact absurd (h.single hother hpost hr hrun) hq
  refine ⟨h.known,h.uncut,h.possible,h.listed,fun q other hother => ?_,fun q other a hother ha => ?_,
    fun q other result hother hr => ?_,fun q other hother hf' => ?_,fun result m hm => ?_,⟨mark,rfl⟩,?_⟩
  · rcases hcases hother with ⟨rfl,rfl⟩ | ⟨hother,hidle⟩
    · exact ⟨(h.posts q post hpost).1,fun _ => (h.posts q post hpost).2 hrun⟩
    · exact h.posts q other hother
  · rcases hcases hother with ⟨rfl,rfl⟩ | ⟨hother,_⟩
    · cases ha
    · exact h.answers q other a hother ha
  · rcases hcases hother with ⟨rfl,rfl⟩ | ⟨_,hidle⟩
    · cases hr
      exact ⟨mark,rfl⟩
    · rw [hr] at hidle
      cases hidle
  · rcases hcases hother with ⟨rfl,rfl⟩ | ⟨_,hidle⟩
    · cases hf'
    · rw [running_of_inFlight hf'] at hidle
      cases hidle
  · cases hm
    exact ⟨hmark,hnewest⟩
  · change Grounded _ s.rendered
    rw [(h.observing p post hpost hf).2]
    trivial

/-- Once a request is over, no other is in flight. -/
theorem quiet_finish {p : ℕ} {post : Post} (h : Steady s) (hpost : s.posts p = some post) (hrun : post.stage.running = true) :
    ∀ q other, (finish p s).posts q = some other → other.stage.inFlight = false := by
  intro q other hother
  by_cases hq : q = p
  · subst hq
    simp only [InventoryFlow.finish,Function.update_self,hpost,Option.map_some,Option.some.injEq] at hother
    rw [← hother]
    rfl
  · simp only [InventoryFlow.finish,Function.update_of_ne hq] at hother
    cases hf : other.stage.inFlight with
    | false => rfl
    | true => exact absurd (h.single hother hpost (running_of_inFlight hf) hrun) hq

theorem exists_of_newestWaiting (h : newestWaiting s = true) :
    ∃ i read, s.reads i = some read ∧ read.requestSequence = s.readSequence ∧ read.returned = none := by
  obtain ⟨i,_,hi⟩ := List.any_eq_true.mp h
  obtain ⟨read,hread,hi⟩ := (Option.any_eq_true ..).mp hi
  simp only [Bool.and_eq_true,decide_eq_true_eq,Option.isNone_iff_eq_none] at hi
  exact ⟨i,read,hread,hi.1,hi.2⟩

/-- A request that failed leaves something to be waited for, or a resource at rest. -/
theorem inv_uncaught {p : ℕ} {post : Post} {cause : Cause} (halive : s.alive = true) (h : Steady s)
    (hpost : s.posts p = some post) (hrun : post.stage.running = true) (hcause : cancels cause = false)
    (hal : s.stored.isSome = true ∨ s.resource.pending = false ∨ newestWaiting s = true) :
    Inv (finish p (uncaught p post cause s)) := by
  intro _
  have hkind : (asApiError cause refreshPath).kind ≠ .cancelled := by
    cases cause with
    | thrown message => simp [asApiError,toApiError]
    | api error => simpa [cancels,asApiError,toApiError] using hcause
  have hguard : uncaught p post cause s = { s with
      outcome := some (if (asApiError cause refreshPath).kind = .unreachable ∨ (asApiError cause refreshPath).kind = .timeout ∨
          (asApiError cause refreshPath).kind = .malformed
        then .observationUncertain (asApiError cause refreshPath) else .observationFailed (asApiError cause refreshPath))
      resource := s.stored.elim s.resource (.success · false) } := by
    simp [uncaught,halive,((h.posts p post hpost).2 hrun).1.symm,hkind,(h.posts p post hpost).1]
  rw [hguard]
  have hquiet := quiet_finish h hpost hrun
  refine ⟨((h.finish p).setOutcome ?_ fun q other hq hf => ?_).display _ _ _ _ _,fun hp => ?_⟩
  · split <;> trivial
  · rw [hquiet q other hq] at hf
    cases hf
  · right
    rcases hal with hstored | hidle | hwaiting
    · obtain ⟨list,hlist⟩ := Option.isSome_iff_exists.mp hstored
      simp [InventoryFlow.finish,hlist,Resource.pending] at hp
    · cases hstored : s.stored with
      | none => simp [InventoryFlow.finish,hstored,hidle] at hp
      | some list => simp [InventoryFlow.finish,hstored,Resource.pending] at hp
    · exact exists_of_newestWaiting hwaiting

theorem resumed_alive (p : ℕ) (post : Post) (answer : Settled (Option Json)) (s : State L) :
    (resumed p post answer s).alive = s.alive := by
  have huncaught : ∀ cause, (finish p (uncaught p post cause s)).alive = s.alive := by
    intro cause
    simp only [finish,uncaught]
    split <;> rfl
  unfold resumed
  cases answer with
  | failed cause => exact huncaught cause
  | body body =>
    simp only
    split
    · rfl
    · split
      · exact huncaught _
      · split <;> rfl

theorem inv_resumePost {p : ℕ} (h : Inv s) (hal : allowed s (.resumePost p) = true)
    (hs : step (.resumePost p) s = some s') : Inv s' := by
  obtain ⟨post,hpost,hs⟩ := Option.bind_eq_some_iff.mp hs
  split at hs
  · next answer hstage =>
    cases hs
    have hrun : post.stage.running = true := by rw [hstage]; rfl
    have hf : post.stage.inFlight = true := by rw [hstage]; rfl
    simp only [allowed,hpost,Option.all_some,hstage,Bool.or_eq_true,Bool.not_eq_true'] at hal
    by_cases halive : s.alive = true
    · obtain ⟨hsteady,hrest⟩ := h halive
      have hflow := ((hsteady.posts p post hpost).2 hrun).1
      have hpossible := hsteady.answers p post answer hpost hstage
      cases answer with
      | failed cause =>
        refine inv_uncaught halive hsteady hpost hrun (by simpa [InventoryFlow.possible] using hpossible) ?_
        simpa [throws,or_assoc] using hal
      | body body =>
        simp only [resumed]
        rw [if_neg (by simp [halive,hflow])]
        cases hfields : fieldsOf body with
        | error cause =>
          have hcause : cancels cause = false := by
            unfold fieldsOf at hfields
            split at hfields <;> cases hfields <;> rfl
          refine inv_uncaught halive hsteady hpost hrun hcause ?_
          simpa [throws,hfields,Except.toOption,or_assoc] using hal
        | ok value =>
          simp only
          split
          · intro _
            have hnewest : ∀ i read, (startStoredRead (.flow p) s).reads i = some read →
                read.requestSequence = s.readSequence + 1 → s.started ≤ i := by
              intro i read hread hseq
              by_contra hlt
              have hne : i ≠ s.started := (not_le.mp hlt).ne
              have hold : s.reads i = some read := by simpa [startStoredRead,Function.update_of_ne hne] using hread
              exact absurd hseq (Nat.lt_succ_of_le (hsteady.known i read hold).2).ne
            exact ⟨(hsteady.start (.flow p)).acknowledge hpost hf (Nat.le_succ _) hnewest,
              fun _ => .inr ⟨s.started,_,Function.update_self ..,rfl,rfl⟩⟩
          · intro _
            have hover : Steady { finish p s with outcome := some (.observationUncertain unreadableResult) } :=
              (hsteady.finish p).setOutcome trivial fun q other hq hf' => by
                rw [quiet_finish hsteady hpost hrun q other hq] at hf'
                cases hf'
            exact ⟨hover.start .settleReadingOutcome,resting_start .settleReadingOutcome
              { finish p s with outcome := some (.observationUncertain unreadableResult) }⟩
    · intro hafter
      rw [resumed_alive] at hafter
      exact absurd hafter halive
  · cases hs

theorem inv_step {a : Act L} (h : Inv s) (hal : allowed s a = true) (hs : step a s = some s') : Inv s' := by
  cases a with
  | reread => cases hs; exact inv_start h
  | refreshInventory => cases hs; exact inv_refreshInventory h
  | retryStoredRead => cases hs; exact inv_retryStoredRead h
  | retryResource => cases hs; exact inv_start h
  | settleRead i answer => exact inv_settleRead h hs
  | resumeRead i now => exact inv_resumeRead h hs
  | concludeRead i => exact inv_concludeRead h hal hs
  | settlePost p answer => exact inv_settlePost h hs
  | resumePost p => exact inv_resumePost h hal hs
  | render => cases hs; exact inv_render h
  | unmount => cases hs; exact fun halive => by cases halive

end Steps

section Runs

theorem Inv.sound (h : Inv s) (halive : s.alive = true) : Sound s where
  resting hposts hreads := by
    cases hp : s.resource.pending with
    | false => rfl
    | true =>
      rcases (h halive).2 hp with ⟨p,post,hpost,hf⟩ | ⟨i,read,hread,_,hnone⟩
      · rw [hposts p post hpost] at hf
        cases hf
      · exact absurd hnone (hreads i read hread)
  single p q post post' hp hq hf hf' := (h halive).1.single hp hq (running_of_inFlight hf) (running_of_inFlight hf')
  grounded := (h halive).1.outcome

/-- No step of a stored read that is not the newest changes what is held or shown. -/
theorem unchanged_of_superseded {i : ℕ} {read : Read L} {a : Act L} (hread : s.reads i = some read)
    (hseq : read.requestSequence ≠ s.readSequence) (hof : a.ofRead i) (hal : allowed s a = true) (hs : step a s = some s') :
    Unchanged s s' := by
  cases a with
  | settleRead j answer =>
    cases hof
    obtain ⟨other,_,hs⟩ := Option.bind_eq_some_iff.mp hs
    split at hs
    · cases hs
      exact ⟨rfl,rfl,rfl,rfl⟩
    · cases hs
  | resumeRead j now =>
    cases hof
    obtain ⟨other,hother,hs⟩ := Option.bind_eq_some_iff.mp hs
    rw [hread] at hother
    cases hother
    split at hs
    · cases hs
    · obtain ⟨answer,_,rfl⟩ := Option.map_eq_some_iff.mp hs
      rw [returns_stale hseq]
      exact ⟨rfl,rfl,rfl,rfl⟩
  | concludeRead j =>
    cases hof
    obtain ⟨other,hother,hs⟩ := Option.bind_eq_some_iff.mp hs
    rw [hread] at hother
    cases hother
    split at hs
    · cases hs
    · obtain ⟨returned,hreturned,hs⟩ := Option.bind_eq_some_iff.mp hs
      have hstale : returned.isStale = true := by simpa [allowed,hread,hreturned,hseq] using hal
      cases returned with
      | success list => cases hstale
      | failed error => cases hstale
      | stale =>
        cases hconsumer : read.consumer with
        | nobody =>
          simp only [hconsumer,Option.some.injEq] at hs
          subst hs
          exact ⟨rfl,rfl,rfl,rfl⟩
        | settleReadingOutcome =>
          simp only [hconsumer,Option.some.injEq] at hs
          subst hs
          exact ⟨rfl,rfl,rfl,rfl⟩
        | flow p =>
          simp only [hconsumer] at hs
          obtain ⟨post,_,hs⟩ := Option.bind_eq_some_iff.mp hs
          split at hs
          · cases hs
            rw [conclude_stale]
            exact ⟨rfl,rfl,rfl,rfl⟩
          · cases hs
  | _ => cases hof

/-- Over every run of the screen whose steps keep to the rule, for as long as it is mounted. -/
theorem inventory_sound (s : State L) (h : Machine.Reach (screen L) (fun s a => allowed s a = true) s) (halive : s.alive = true) :
    Sound s ∧ ∀ i read a s', s.reads i = some read → read.requestSequence ≠ s.readSequence → a.ofRead i →
      allowed s a = true → step a s = some s' → Unchanged s s' := by
  have hinv : Inv s := h.invariant (fun s hs => by cases hs; exact inv_initial) fun a s s' hI ha hm => inv_step hI ha hm
  exact ⟨hinv.sound halive,fun i read a s' hread hseq hof hal hs => unchanged_of_superseded hread hseq hof hal hs⟩

/-- The first load is answered, an inventory is asked for and acknowledged, and the list read after it comes in. -/
theorem inventory_sound_settled : ∃ s : State ℕ, (s.alive = true ∧ s.resource.pending = false ∧
    s.acknowledged.map (·.2) = some 1) ∧ Sound s ∧
      ∀ i read a s', s.reads i = some read → read.requestSequence ≠ s.readSequence → a.ofRead i →
        allowed s a = true → step a s = some s' → Unchanged s s' := by
  obtain ⟨s,hs,hp⟩ := Machine.exists_of_play (M := screen ℕ) (R := fun s a => allowed s a = true) rfl
    [.settleRead 0 (.body 3),.resumeRead 0 9,.concludeRead 0,.refreshInventory,
      .settlePost 1 (.body (some (.obj [("sweep_id",.str "s"),("status",.str "ok"),("container_count",.num 0),
        ("issues",.arr []),("provider_version",.str "v")]))),.resumePost 1,
      .settleRead 1 (.body 4),.resumeRead 1 12,.concludeRead 1]
    (fun s => s.alive && !s.resource.pending && decide (s.acknowledged.map (·.2) = some 1)) (by decide +kernel)
  simp only [Bool.and_eq_true,Bool.not_eq_true',decide_eq_true_eq] at hp
  exact ⟨s,⟨hp.1.1,hp.1.2,hp.2⟩,inventory_sound s hs hp.1.1⟩

/-- Every call there is was numbered. -/
structure Numbered (s : State L) : Prop where
  reads : ∀ i read, s.reads i = some read → i < s.started
  posts : ∀ p post, s.posts p = some post → p ≤ s.flow

theorem Numbered.start (h : Numbered s) (consumer : Consumer) : Numbered (startStoredRead consumer s) := by
  refine ⟨fun i read hread => ?_,h.posts⟩
  by_cases hi : i = s.started
  · exact hi ▸ Nat.lt_succ_self _
  · exact Nat.lt_succ_of_lt (h.reads i read (by simpa [startStoredRead,Function.update_of_ne hi] using hread))

theorem Numbered.keep {i : ℕ} {read read' : Read L} (h : Numbered s) (hread : s.reads i = some read) :
    Numbered (keepRead i read' s) := by
  refine ⟨fun j other hother => ?_,h.posts⟩
  by_cases hj : j = i
  · exact hj ▸ h.reads i read hread
  · exact h.reads j other (by simpa [keepRead,Function.update_of_ne hj] using hother)

theorem Numbered.post {p : ℕ} {post : Post} (h : Numbered s) (hpost : s.posts p = some post) (slot : Option Post) :
    Numbered { s with posts := Function.update s.posts p slot } := by
  refine ⟨h.reads,fun q other hother => ?_⟩
  by_cases hq : q = p
  · exact hq ▸ h.posts p post hpost
  · exact h.posts q other (by simpa [Function.update_of_ne hq] using hother)

theorem Numbered.finish {p : ℕ} {post : Post} (h : Numbered s) (hpost : s.posts p = some post) : Numbered (finish p s) := by
  have hdone := h.post hpost ((s.posts p).map fun post => { post with stage := .done })
  exact ⟨hdone.reads,hdone.posts⟩

theorem numbered_resumed {p : ℕ} {post : Post} {answer : Settled (Option Json)} (h : Numbered s)
    (hpost : s.posts p = some post) : Numbered (resumed p post answer s) := by
  have huncaught : ∀ cause, Numbered (finish p (uncaught p post cause s)) := by
    intro cause
    simp only [uncaught]
    split
    · exact Numbered.finish ⟨h.reads,h.posts⟩ hpost
    · exact h.finish hpost
  unfold resumed
  cases answer with
  | failed cause => exact huncaught cause
  | body body =>
    simp only
    split
    · exact h.finish hpost
    · split
      · exact huncaught _
      · next value _ =>
        split
        · have hack : Numbered { s with
              outcome := some (.reading value)
              posts := Function.update s.posts p (some { post with stage := .reading value })
              acknowledged := some (value,s.started) } := ⟨h.reads,(h.post hpost _).posts⟩
          exact hack.start _
        · have hset : Numbered { s with outcome := some (.observationUncertain unreadableResult) } := ⟨h.reads,h.posts⟩
          exact (hset.start _).finish hpost

theorem numbered_step {a : Act L} (h : Numbered s) (hs : step a s = some s') : Numbered s' := by
  cases a with
  | reread => cases hs; exact h.start _
  | retryResource => cases hs; exact h.start _
  | retryStoredRead =>
    cases hs
    refine Numbered.start ?_ _
    exact ⟨h.reads,h.posts⟩
  | render => cases hs; exact ⟨h.reads,h.posts⟩
  | refreshInventory =>
    cases hs
    unfold refreshInventory
    split
    · exact h
    · refine ⟨fun i read hread => ?_,fun q post hpost => ?_⟩
      · obtain ⟨old,hold,_⟩ := Option.map_eq_some_iff.mp hread
        exact h.reads i old hold
      · by_cases hq : q = s.flow + 1
        · exact hq.le
        · exact Nat.le_succ_of_le (h.posts q post (by simpa [abortReads,Function.update_of_ne hq] using hpost))
  | unmount =>
    cases hs
    refine ⟨fun i read hread => ?_,fun q post hpost => ?_⟩
    · obtain ⟨old,hold,_⟩ := Option.map_eq_some_iff.mp hread
      exact h.reads i old hold
    · obtain ⟨old,hold,_⟩ := Option.map_eq_some_iff.mp hpost
      exact h.posts q old hold
  | settleRead i answer =>
    obtain ⟨read,hread,hs⟩ := Option.bind_eq_some_iff.mp hs
    split at hs
    · cases hs
      exact h.keep hread
    · cases hs
  | resumeRead i now =>
    obtain ⟨read,hread,hs⟩ := Option.bind_eq_some_iff.mp hs
    split at hs
    · cases hs
    · obtain ⟨answer,_,rfl⟩ := Option.map_eq_some_iff.mp hs
      cases answer <;> simp only [returns] <;> split <;> exact Numbered.keep ⟨h.reads,h.posts⟩ hread
  | concludeRead i =>
    obtain ⟨read,hread,hs⟩ := Option.bind_eq_some_iff.mp hs
    split at hs
    · cases hs
    · obtain ⟨returned,_,hs⟩ := Option.bind_eq_some_iff.mp hs
      have hkept := @Numbered.keep _ _ _ _ { read with concluded := true } h hread
      generalize keepRead i { read with concluded := true } s = t at hs hkept
      cases hconsumer : read.consumer with
      | nobody =>
        simp only [hconsumer,Option.some.injEq] at hs
        exact hs ▸ hkept
      | settleReadingOutcome =>
        simp only [hconsumer,Option.some.injEq] at hs
        exact hs ▸ ⟨hkept.reads,hkept.posts⟩
      | flow p =>
        simp only [hconsumer] at hs
        obtain ⟨post,hpost,hs⟩ := Option.bind_eq_some_iff.mp hs
        split at hs
        · next result _ =>
          cases hs
          obtain ⟨o,ho,_⟩ := conclude_cases p result returned t
          rw [ho]
          exact Numbered.finish ⟨hkept.reads,hkept.posts⟩ hpost
        · cases hs
  | settlePost p answer =>
    obtain ⟨post,hpost,hs⟩ := Option.bind_eq_some_iff.mp hs
    split at hs
    · split at hs
      · cases hs
        exact h.post hpost _
      · cases hs
    · cases hs
  | resumePost p =>
    obtain ⟨post,hpost,hs⟩ := Option.bind_eq_some_iff.mp hs
    split at hs
    · cases hs
      exact numbered_resumed h hpost
    · cases hs

/-- Nothing is in flight, and the resource is not at rest. -/
def stranded (s : State L) : Bool :=
  s.alive && s.resource.pending && (List.range s.started).all (fun i => (s.reads i).all (·.returned.isSome)) &&
    (List.range (s.flow + 1)).all fun p => (s.posts p).all (!·.stage.inFlight)

theorem not_sound_of_stranded (h : Numbered s) (hs : stranded s = true) : ¬Sound s := by
  simp only [stranded,Bool.and_eq_true,List.all_eq_true] at hs
  obtain ⟨⟨⟨_,hpending⟩,hreads⟩,hposts⟩ := hs
  intro hsound
  have hrest := hsound.resting (fun p post hp => ?_) fun i read hread => ?_
  · rw [hrest] at hpending
    cases hpending
  · have := hposts p (List.mem_range.mpr (Nat.lt_succ_of_le (h.posts p post hp)))
    simpa [hp] using this
  · have := hreads i (List.mem_range.mpr (h.reads i read hread))
    simp only [hread,Option.all_some] at this
    exact Option.ne_none_iff_isSome.mpr this

/-- The first load is superseded by an inventory request, and that fails: the screen loads for ever. -/
theorem inventory_sound_needs_rest : ∃ s : State ℕ, Machine.Reach (screen ℕ) Machine.free s ∧ s.alive = true ∧ ¬Sound s := by
  obtain ⟨s,hs,hp⟩ := Machine.exists_of_play (M := screen ℕ) (R := Machine.free) rfl
    [.refreshInventory,.settlePost 1 (.failed (.thrown none)),.resumePost 1,.settleRead 0 (.body 3),.resumeRead 0 9,
      .concludeRead 0] stranded (by decide +kernel)
  have hnumbered : Numbered s := hs.invariant
    (fun s hs => by cases hs; exact Numbered.start ⟨fun _ _ h => (by cases h),fun _ _ h => (by cases h)⟩ _)
    fun a s s' hI _ hm => numbered_step hI hm
  have halive : s.alive = true := by
    simp only [stranded,Bool.and_eq_true] at hp
    exact hp.1.1.1
  exact ⟨s,hs,halive,not_sound_of_stranded hnumbered hp⟩

/-- The list of an outcome was read before its result was acknowledged. -/
def mispaired (s : State L) : Bool :=
  match s.outcome,s.acknowledged with
  | some (.settled _ _ list),some (_,mark) => list.read < mark
  | _,_ => false

/-- A list returned in time, and gone on with only after the inventory request was acknowledged, is taken for
the list read after it. -/
theorem inventory_sound_needs_newest : ∃ s : State ℕ, Machine.Reach (screen ℕ) Machine.free s ∧ s.alive = true ∧ ¬Sound s := by
  obtain ⟨s,hs,hp⟩ := Machine.exists_of_play (M := screen ℕ) (R := Machine.free) rfl
    [.refreshInventory,.reread,.settleRead 1 (.body 3),.resumeRead 1 9,
      .settlePost 1 (.body (some (.obj [("sweep_id",.str "s"),("status",.str "ok"),("container_count",.num 0),
        ("issues",.arr []),("provider_version",.str "v")]))),.resumePost 1,.concludeRead 1]
    (fun s => s.alive && mispaired s) (by decide +kernel)
  rw [Bool.and_eq_true] at hp
  refine ⟨s,hs,hp.1,fun h => ?_⟩
  have hgrounded := h.grounded
  have hmispaired := hp.2
  unfold mispaired at hmispaired
  split at hmispaired
  · next phase result list result' mark houtcome hack =>
    rw [houtcome] at hgrounded
    obtain ⟨_,mark',hack',hle,_⟩ := hgrounded
    rw [hack] at hack'
    cases hack'
    exact absurd (of_decide_eq_true hmispaired) (not_lt.mpr hle)
  · cases hmispaired

end Runs

end InventoryFlow
end LocalPlane
