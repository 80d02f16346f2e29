import LocalPlane.MutationChain
import Mathlib.Data.List.Nodup

/-!
# What the engine is told of a mutation

However the two connections, the agent, the helper and the exchange with the kernel fail and
in whatever order their steps come, a mutation that is reported as not written never takes
effect, one that is reported as written was acknowledged, and a call that failed after its
request had left is reported as unknown.
-/

set_option linter.dupNamespace false

namespace LocalPlane

namespace Helper

variable {s s' : State} {request : SetMtu} {link : LinkFacts} {result : MutationResult}

/-- The kernel acknowledges what it decided. -/
def Honest : Act → Prop
  | .dispatch _ sequence verdict (.answered reply) => Netlink.Genuine reply sequence verdict
  | _ => True

/-- What the exchange is concluded as does not contradict what the kernel decided. -/
theorem conclude_truthful {sequence : ℕ} {verdict : Netlink.Verdict} {delivery : Delivery} {i : ℕ}
    (hh : Honest (.dispatch i sequence verdict delivery)) (h : conclude request link sequence delivery = some result) :
    (result.outcome = .written → verdict = .accepted ∧ delivery.sent) ∧
      (result.outcome = .notWritten → delivery.sent → verdict ≠ .accepted) := by
  cases delivery with
  | sendFailed reason => cases h; simp [Delivery.sent]
  | unanswered reason => cases h; simp
  | raised => cases h
  | answered reply =>
    have hg : Netlink.Genuine reply sequence verdict := hh
    simp only [conclude] at h
    cases hc : Netlink.acknowledgement reply sequence with
    | code errno =>
      have hcode := Netlink.acknowledgement_genuine hg hc
      simp only [hc] at h
      split at h
      · next hzero =>
        cases h
        cases verdict with
        | accepted => simp [Delivery.sent]
        | rejected n hn => simp only [Netlink.Verdict.errno] at hcode; omega
      · next hne =>
        split at h
        · cases h
        · cases h
          refine ⟨by simp,fun _ _ hv => hne ?_⟩
          rw [hcode,hv]; rfl
    | raised => simp [hc] at h
    | _ => simp only [hc,Option.some.injEq] at h; subst h; simp

/-- What has been concluded, remembered and answered is what became of a frame. -/
structure Truthful (s : State) : Prop where
  frames : ∀ f ∈ s.frames, ∀ result, f.result = some result →
    (result.outcome = .written → f.verdict = .accepted) ∧ (result.outcome = .notWritten → f.verdict ≠ .accepted)
  written : ∀ t ∈ s.threads, ∀ result, (t.stage = .decided result ∨ ∃ replayed, t.stage = .answered result replayed) →
    result.outcome = .written → ∃ f ∈ s.frames, f.request.attemptId = t.request.attemptId ∧ f.result = some result
  memory : ∀ e ∈ s.memory, e.2.outcome = .written →
    ∃ f ∈ s.frames, f.request.attemptId = e.1 ∧ f.result = some e.2

namespace Truthful

variable {t : Thread} {i : ℕ}

theorem set (h : Truthful s) (ht : ∀ result, (t.stage = .decided result ∨ ∃ replayed, t.stage = .answered result replayed) →
      result.outcome = .written → ∃ f ∈ s.frames, f.request.attemptId = t.request.attemptId ∧ f.result = some result) :
    Truthful { s with threads := s.threads.set i t } where
  frames := h.frames
  written x hx result hs hw := by
    rcases Orderly.mem_set hx with rfl | hx
    · exact ht result hs hw
    · exact h.written x hx result hs hw
  memory := h.memory

theorem dispatch (h : Truthful s) {sequence : ℕ} {verdict : Netlink.Verdict} {delivery : Delivery} {stage : Stage}
    (hh : Honest (.dispatch i sequence verdict delivery)) (hsent : delivery.sent)
    (hs : ∀ result, stage = .decided result → conclude request link sequence delivery = some result)
    (ha : ∀ result replayed, stage ≠ .answered result replayed) :
    Truthful { s.set i request stage with
      frames := ⟨request,verdict,conclude request link sequence delivery⟩ :: s.frames } where
  frames f hf result hr := by
    rcases List.mem_cons.mp hf with rfl | hf
    · obtain ⟨hw,hn⟩ := conclude_truthful hh hr
      exact ⟨fun ho => (hw ho).1,fun ho => hn ho hsent⟩
    · exact h.frames f hf result hr
  written x hx result hstage hw := by
    rcases Orderly.mem_set hx with rfl | hx
    · rcases hstage with hd | ⟨replayed,hd⟩
      · exact ⟨_,.head _,rfl,hs result hd⟩
      · exact absurd hd (ha result replayed)
    · obtain ⟨f,hf,hfr⟩ := h.written x hx result hstage hw
      exact ⟨f,.tail _ hf,hfr⟩
  memory e he hw := by
    obtain ⟨f,hf,hfr⟩ := h.memory e he hw
    exact ⟨f,.tail _ hf,hfr⟩

theorem step (h : Truthful s) {a : Act} (hh : Honest a) (hs : Helper.step a s = some s') : Truthful s' := by
  cases a with
  | submit request =>
    simp only [Helper.step,Option.some.injEq] at hs
    subst hs
    refine ⟨h.frames,fun x hx result hstage hw => ?_,h.memory⟩
    rcases List.mem_append.mp hx with hx | hx
    · exact h.written x hx result hstage hw
    · cases List.mem_singleton.mp hx
      by_cases hv : request.valid <;> simp [hv] at hstage
  | lookup i =>
    cases hi : s.threads[i]? with
    | none => simp [Helper.step,hi] at hs
    | some t =>
      obtain ⟨request,stage⟩ := t
      cases stage with
      | received =>
        simp only [Helper.step,hi] at hs
        cases hr : retained s.memory request.attemptId with
        | some remembered =>
          simp only [hr,Option.some.injEq] at hs
          subst hs
          refine h.set fun result hstage hw => ?_
          rcases hstage with hd | ⟨replayed,hd⟩
          · cases hd
          · cases hd
            exact h.memory _ (retained_some hr) hw
        | none =>
          simp only [hr,Option.some.injEq] at hs
          subst hs
          exact h.set (by simp)
      | _ => simp [Helper.step,hi] at hs
  | check i reading =>
    cases hi : s.threads[i]? with
    | none => simp [Helper.step,hi] at hs
    | some t =>
      obtain ⟨request,stage⟩ := t
      cases stage with
      | missed =>
        simp only [Helper.step,hi] at hs
        cases hc : check request reading with
        | passed link =>
          simp only [hc,Option.some.injEq] at hs
          subst hs
          exact h.set (by simp)
        | refused reason link =>
          simp only [hc,Option.some.injEq] at hs
          subst hs
          refine h.set fun result hstage hw => ?_
          rcases hstage with hd | ⟨replayed,hd⟩
          · cases hd; cases hw
          · cases hd
        | raised =>
          simp only [hc,Option.some.injEq] at hs
          subst hs
          exact h.set (by simp)
      | _ => simp [Helper.step,hi] at hs
  | dispatch i sequence verdict delivery =>
    cases hi : s.threads[i]? with
    | none => simp [Helper.step,hi] at hs
    | some t =>
      obtain ⟨request,stage⟩ := t
      cases stage with
      | checked link =>
        simp only [Helper.step,hi] at hs
        split at hs
        · next hsent =>
          cases hs
          refine h.dispatch hh hsent (fun result hd => ?_) fun result replayed => ?_
          · cases hc : conclude request link sequence delivery with
            | some concluded => simp only [hc] at hd; cases hd; rfl
            | none => simp [hc] at hd
          · cases conclude request link sequence delivery <;> simp
        · next hsent =>
          cases hs
          cases delivery with
          | sendFailed reason => exact h.set (by simp [conclude])
          | _ => exact absurd rfl hsent
      | _ => simp [Helper.step,hi] at hs
  | remember i =>
    cases hi : s.threads[i]? with
    | none => simp [Helper.step,hi] at hs
    | some t =>
      obtain ⟨request,stage⟩ := t
      cases stage with
      | decided result =>
        simp only [Helper.step,hi,Option.some.injEq] at hs
        subst hs
        have hd := h.written _ (List.mem_of_getElem? hi) result (.inl rfl)
        have hset : Truthful (s.set i request (.answered result false)) := h.set fun r hstage hw => by
          rcases hstage with hr | ⟨replayed,hr⟩
          · cases hr
          · cases hr; exact hd hw
        refine ⟨hset.frames,hset.written,fun e he hw => ?_⟩
        dsimp only at he
        rcases mem_remember he with rfl | he
        · exact hd hw
        · exact h.memory e he hw
      | _ => simp [Helper.step,hi] at hs

end Truthful

/-- A thread keeps its request and, once it has answered, its answer. -/
theorem step_thread {a : Act} (hs : Helper.step a s = some s') {i : ℕ} {t : Thread} (hi : s.threads[i]? = some t) :
    ∃ t', s'.threads[i]? = some t' ∧ t'.request = t.request ∧ (t.stage.isAnswered → t' = t) := by
  have hset : ∀ {j : ℕ} {request : SetMtu} {stage stage' : Stage}, s.threads[j]? = some ⟨request,stage⟩ →
      stage.isAnswered = false → ∃ t', (s.threads.set j ⟨request,stage'⟩)[i]? = some t' ∧ t'.request = t.request ∧
        (t.stage.isAnswered → t' = t) := by
    intro j request stage stage' hj hn
    by_cases hij : j = i
    · subst hij
      cases hi.symm.trans hj
      obtain ⟨hlt,_⟩ := List.getElem?_eq_some_iff.mp hj
      exact ⟨⟨request,stage'⟩,by simp [hlt],rfl,fun ha => by rw [hn] at ha; cases ha⟩
    · exact ⟨t,by rw [List.getElem?_set,if_neg hij]; exact hi,rfl,fun _ => rfl⟩
  cases a with
  | submit request =>
    simp only [Helper.step,Option.some.injEq] at hs
    subst hs
    obtain ⟨hlt,_⟩ := List.getElem?_eq_some_iff.mp hi
    exact ⟨t,by rw [List.getElem?_append_left hlt]; exact hi,rfl,fun _ => rfl⟩
  | lookup j =>
    simp only [Helper.step] at hs
    split at hs
    · next hj => split at hs <;> cases hs <;> exact hset hj rfl
    · cases hs
  | check j reading =>
    simp only [Helper.step] at hs
    split at hs
    · next hj => split at hs <;> cases hs <;> exact hset hj rfl
    · cases hs
  | dispatch j sequence verdict delivery =>
    simp only [Helper.step] at hs
    split at hs
    · next hj => split at hs <;> cases hs <;> exact hset hj rfl
    · cases hs
  | remember j =>
    simp only [Helper.step] at hs
    split at hs
    · next hj => cases hs; exact hset hj rfl
    · cases hs

theorem length_threads {a : Act} (ha : Chain.helperActs a) (hs : Helper.step a s = some s') :
    s'.threads.length = s.threads.length := by
  cases a with
  | submit request => cases ha
  | lookup j => simp only [Helper.step] at hs; repeat' split at hs
                all_goals cases hs
                all_goals simp [State.set]
  | check j reading => simp only [Helper.step] at hs; repeat' split at hs
                       all_goals cases hs
                       all_goals simp [State.set]
  | dispatch j sequence verdict delivery => simp only [Helper.step] at hs; repeat' split at hs
                                            all_goals cases hs
                                            all_goals simp [State.set]
  | remember j => simp only [Helper.step] at hs; repeat' split at hs
                  all_goals cases hs
                  all_goals simp [State.set]

/-- Under these two conditions the helper dispatches at most once an attempt, and truthfully. -/
def Faithful (s : State) (a : Act) : Prop := Unhidden s a ∧ Honest a

theorem faithful_orderly {s : machine.State} (h : Machine.Reach machine Faithful s) : Orderly s := by
  refine orderly ?_
  induction h with
  | start hs => exact .start hs
  | step _ ha hs ih => exact .step ih ha.1 hs

theorem faithful_truthful {s : machine.State} (h : Machine.Reach machine Faithful s) : Truthful s :=
  h.invariant (I := Truthful)
    (fun s hs => by subst hs; exact ⟨by simp [State.empty],by simp [State.empty],by simp [State.empty]⟩)
    fun _ s _ (hI : Truthful s) ha hs => hI.step ha.2 hs

end Helper

namespace Chain

open LineProtocol Helper

namespace Hop

variable {c : Codec} {unavailable : String} {h h' : Hop} {a : HopAct}

/-- What the client of a connection may conclude about the other side of it. -/
structure Sound (h : Hop) : Prop where
  idle : h.client = .idle → h.server = .absent
  unsent : ∀ e, h.client = .done (.error e) → e.dispatched = false → h.server = .absent
  answered : ∀ fields, h.client = .done (.ok fields) → h.server = .replied (.ok fields)

theorem start_sound (requestId : String) : (Hop.start requestId).Sound where
  idle _ := rfl
  unsent _ hc := by cases hc
  answered _ hc := by cases hc

theorem step_sound (hh : h.Sound) (hs : h.step c unavailable a = some h') : h'.Sound := by
  obtain ⟨requestId,client,server⟩ := h
  cases a with
  | fail exchange =>
    cases client with
    | idle =>
      simp only [step] at hs
      split at hs
      · cases hs
      · next hleft =>
        cases hs
        refine ⟨fun hc => (by cases hc),fun e he hd => hh.idle rfl,fun fields hf => ?_⟩
        obtain ⟨raw,rfl,_⟩ := call_ok (Client.done.inj hf)
        exact absurd rfl hleft
    | _ => cases hs
  | send =>
    cases client with
    | idle => cases hs; exact ⟨fun hc => (by cases hc),fun _ hc => (by cases hc),fun _ hc => by cases hc⟩
    | _ => cases hs
  | serve =>
    cases server with
    | delivered =>
      cases hs
      exact ⟨fun hc => absurd (hh.idle hc) (by simp),fun e hc hd => absurd (hh.unsent e hc hd) (by simp),
        fun fields hc => absurd (hh.answered fields hc) (by simp)⟩
    | _ => cases hs
  | leave =>
    cases server with
    | delivered | running =>
      cases hs
      exact ⟨fun hc => absurd (hh.idle hc) (by simp),fun e hc hd => absurd (hh.unsent e hc hd) (by simp),
        fun fields hc => absurd (hh.answered fields hc) (by simp)⟩
    | _ => cases hs
  | reply answer =>
    cases server with
    | running =>
      cases hs
      exact ⟨fun hc => absurd (hh.idle hc) (by simp),fun e hc hd => absurd (hh.unsent e hc hd) (by simp),
        fun fields hc => absurd (hh.answered fields hc) (by simp)⟩
    | _ => cases hs
  | receive bytes =>
    cases client with
    | waiting =>
      cases server with
      | replied answer =>
        cases hs
        refine ⟨fun hc => (by cases hc),fun e hc hd => ?_,fun fields hc => ?_⟩
        · have hsent := (call_dispatched (Client.done.inj hc)).mpr ⟨_,rfl⟩
          rw [hd] at hsent; cases hsent
        · obtain ⟨raw,hraw,hdecode⟩ := call_ok (Client.done.inj hc)
          cases hraw
          rw [← c.decode_response_eq hdecode]
      | _ => cases hs
    | _ => simp [step] at hs
  | garble received =>
    cases client with
    | waiting =>
      simp only [step] at hs
      split at hs
      · next e _ he =>
        cases hs
        refine ⟨fun hc => (by cases hc),fun e' hc hd => ?_,fun fields hc => by cases hc⟩
        cases hc
        rw [(call_dispatched he).mpr ⟨_,rfl⟩] at hd; cases hd
      · cases hs
    | _ => simp [step] at hs

theorem step_absent (hs : h.step c unavailable a = some h') (hn : h'.server = .absent) : h.server = .absent := by
  obtain ⟨requestId,client,server⟩ := h
  cases a <;> cases client <;> cases server <;> simp only [step] at hs
  all_goals repeat' split at hs
  all_goals cases hs
  all_goals simp_all

theorem step_unsent (hs : h.step c unavailable a = some h') (ha : a ≠ .send) (hn : h.server = .absent) :
    h'.server = .absent := by
  obtain ⟨requestId,client,server⟩ := h
  cases a <;> cases client <;> cases server <;> simp only [step] at hs
  all_goals repeat' split at hs
  all_goals cases hs
  all_goals simp_all

theorem step_delivered (hs : h.step c unavailable a = some h') (hn : h'.server = .delivered) :
    h.server = .delivered ∨ h.client = .idle := by
  obtain ⟨requestId,client,server⟩ := h
  cases a <;> cases client <;> cases server <;> simp only [step] at hs
  all_goals repeat' split at hs
  all_goals cases hs
  all_goals simp_all

theorem step_replied {answer : Except String Fields} (hs : h.step c unavailable a = some h')
    (hn : h'.server = .replied answer) : h.server = .replied answer ∨ a = .reply answer := by
  obtain ⟨requestId,client,server⟩ := h
  cases a <;> cases client <;> cases server <;> simp only [step] at hs
  all_goals repeat' split at hs
  all_goals cases hs
  all_goals simp_all

theorem step_done {answer : Except CallError Fields} (hs : h.step c unavailable a = some h')
    (hn : h.client = .done answer) : h'.client = .done answer := by
  obtain ⟨requestId,client,server⟩ := h
  cases a <;> cases client <;> cases server <;> simp only [step] at hs
  all_goals repeat' split at hs
  all_goals cases hs
  all_goals simp_all

theorem step_serve (hs : h.step c unavailable .serve = some h') : h.server = .delivered ∧ h'.server = .running := by
  obtain ⟨requestId,client,server⟩ := h
  cases server <;> cases hs
  exact ⟨rfl,rfl⟩

end Hop

/-- What the parties of one mutation know of one another. -/
structure Flight.Sound (helper : Helper.State) (f : Flight) : Prop where
  outer : f.outer.Sound
  inner : f.inner.Sound
  before : f.outer.server = .absent → f.inner.server = .absent
  unserved : f.inner.server = .absent ∨ f.inner.server = .delivered → f.thread = none
  owned : ∀ n, f.thread = some n → ∃ t, helper.threads[n]? = some t ∧ t.request = f.request
  relayed : ∀ fields, f.outer.server = .replied (.ok fields) → ∃ answer agentInstanceId hostId,
    f.inner.client = .done answer ∧ fields = agentFields agentInstanceId hostId (agentMutation f.request answer)
  resulted : ∀ fields, f.inner.server = .replied (.ok fields) → ∃ n t result replayed, f.thread = some n ∧
    helper.threads[n]? = some t ∧ t.stage = .answered result replayed ∧ fields = resultFields result replayed

namespace Flight.Sound

variable {helper helper' : Helper.State} {f : Flight} {outer inner : Hop} {a : HopAct}

theorem begin (request : SetMtu) (outerId innerId : String) :
    Flight.Sound helper ⟨request,.start outerId,.start innerId,none⟩ where
  outer := Hop.start_sound outerId
  inner := Hop.start_sound innerId
  before _ := rfl
  unserved _ := rfl
  owned _ hn := by cases hn
  relayed _ hf := by cases hf
  resulted _ hf := by cases hf

theorem moveHelper (h : f.Sound helper) {act : Helper.Act} (hs : Helper.step act helper = some helper') :
    f.Sound helper' where
  outer := h.outer
  inner := h.inner
  before := h.before
  unserved := h.unserved
  owned n hn := by
    obtain ⟨t,ht,hr⟩ := h.owned n hn
    obtain ⟨t',ht',hr',_⟩ := step_thread hs ht
    exact ⟨t',ht',hr'.trans hr⟩
  relayed := h.relayed
  resulted fields hf := by
    obtain ⟨n,t,result,replayed,hn,ht,hstage,hfields⟩ := h.resulted fields hf
    obtain ⟨t',ht',_,hsame⟩ := step_thread hs ht
    have he : t' = t := hsame (by rw [hstage]; rfl)
    exact ⟨n,t',result,replayed,hn,ht',by rw [he,hstage],hfields⟩

theorem moveOuter (h : f.Sound helper) (hs : f.outer.step agentCodec "agent_unavailable" a = some outer)
    (hr : ∀ fields, a = .reply (.ok fields) → ∃ answer agentInstanceId hostId, f.inner.client = .done answer ∧
      fields = agentFields agentInstanceId hostId (agentMutation f.request answer)) :
    Flight.Sound helper { f with outer } where
  outer := Hop.step_sound h.outer hs
  inner := h.inner
  before hn := h.before (Hop.step_absent hs hn)
  unserved := h.unserved
  owned := h.owned
  relayed fields hf := by
    rcases Hop.step_replied hs hf with hf | ha
    · exact h.relayed fields hf
    · exact hr fields ha
  resulted := h.resulted

theorem moveInner (h : f.Sound helper) (hs : f.inner.step helperCodec "helper_unavailable" a = some inner)
    (hsend : a = .send → f.outer.server ≠ .absent)
    (hr : ∀ fields, a = .reply (.ok fields) → ∃ n t result replayed, f.thread = some n ∧
      helper.threads[n]? = some t ∧ t.stage = .answered result replayed ∧ fields = resultFields result replayed) :
    Flight.Sound helper { f with inner } where
  outer := h.outer
  inner := Hop.step_sound h.inner hs
  before hn := Hop.step_unsent hs (fun ha => hsend ha hn) (h.before hn)
  unserved hn := by
    rcases hn with hn | hn
    · exact h.unserved (.inl (Hop.step_absent hs hn))
    · rcases Hop.step_delivered hs hn with hd | hi
      · exact h.unserved (.inr hd)
      · exact h.unserved (.inl (h.inner.idle hi))
  owned := h.owned
  relayed fields hf := by
    obtain ⟨answer,agentInstanceId,hostId,hc,hfields⟩ := h.relayed fields hf
    exact ⟨answer,agentInstanceId,hostId,Hop.step_done hs hc,hfields⟩
  resulted fields hf := by
    rcases Hop.step_replied hs hf with hf | ha
    · exact h.resulted fields hf
    · exact hr fields ha

/-- A request that reaches the helper is handled by a thread of its own. -/
theorem serve (h : f.Sound helper) (hs : f.inner.step helperCodec "helper_unavailable" .serve = some inner)
    (hh : Helper.step (.submit f.request) helper = some helper') :
    Flight.Sound helper' { f with inner, thread := some helper.threads.length } := by
  obtain ⟨hd,hrun⟩ := Hop.step_serve hs
  simp only [Helper.step,Option.some.injEq] at hh
  subst hh
  refine ⟨h.outer,Hop.step_sound h.inner hs,fun hn => ?_,fun hn => ?_,fun n hn => ?_,fun fields hf => ?_,fun fields hf => ?_⟩
  · have hnone := h.before hn
    rw [hd] at hnone; cases hnone
  · have hn' : inner.server = .absent ∨ inner.server = .delivered := hn
    rw [hrun] at hn'
    rcases hn' with hn' | hn' <;> cases hn'
  · cases hn
    exact ⟨⟨f.request,if f.request.valid then .received else .raised false⟩,by simp,rfl⟩
  · obtain ⟨answer,agentInstanceId,hostId,hc,hfields⟩ := h.relayed fields hf
    exact ⟨answer,agentInstanceId,hostId,Hop.step_done hs hc,hfields⟩
  · have hf' : inner.server = .replied (.ok fields) := hf
    rw [hrun] at hf'; cases hf'

end Flight.Sound

structure State.Sound (s : State) : Prop where
  flights : ∀ f ∈ s.flights, f.Sound s.helper
  attempts : (s.flights.map (·.request.attemptId)).Nodup
  threads : ∀ n < s.helper.threads.length, ∃ f ∈ s.flights, f.thread = some n
  helper : Machine.Reach Helper.machine Faithful s.helper

namespace State.Sound

variable {s s' : State} {f g : Flight} {k : ℕ}

theorem eq_of_attempt (h : s.Sound) (hf : f ∈ s.flights) (hg : g ∈ s.flights)
    (ha : f.request.attemptId = g.request.attemptId) : f = g :=
  List.inj_on_of_nodup_map h.attempts hf hg ha

theorem attempts_set (h : s.Sound) (hf : s.flights[k]? = some f) (hr : g.request = f.request) :
    ((s.flights.set k g).map (·.request.attemptId)).Nodup := by
  obtain ⟨hlt,he⟩ := List.getElem?_eq_some_iff.mp hf
  have hself : s.flights.set k f = s.flights := by rw [← he]; exact List.set_getElem_self hlt
  have hmap : (s.flights.set k g).map (·.request.attemptId) = (s.flights.set k f).map (·.request.attemptId) := by
    simp [List.map_set,hr]
  rw [hmap,hself]
  exact h.attempts

theorem set (h : s.Sound) (hf : s.flights[k]? = some f) (hr : g.request = f.request) (ht : g.thread = f.thread)
    (hg : g.Sound s.helper) : (s.set k g).Sound where
  flights x hx := by
    rcases List.mem_or_eq_of_mem_set hx with hx | rfl
    · exact h.flights x hx
    · exact hg
  attempts := h.attempts_set hf hr
  threads n hn := by
    obtain ⟨x,hx,hxn⟩ := h.threads n hn
    obtain ⟨j,hj⟩ := List.mem_iff_getElem?.mp hx
    by_cases hjk : k = j
    · subst hjk
      cases hf.symm.trans hj
      obtain ⟨hlt,_⟩ := List.getElem?_eq_some_iff.mp hf
      exact ⟨g,List.mem_iff_getElem?.mpr ⟨k,by simp [State.set,hlt]⟩,ht.trans hxn⟩
    · exact ⟨x,List.mem_iff_getElem?.mpr ⟨j,by simp only [State.set]; rw [List.getElem?_set,if_neg hjk]; exact hj⟩,hxn⟩
  helper := h.helper

theorem onFlight (h : s.Sound) {change : Flight → Option Flight} (hs : onFlight s k change = some s')
    (hc : ∀ f g, f ∈ s.flights → change f = some g → g.request = f.request ∧ g.thread = f.thread ∧ g.Sound s.helper) :
    s'.Sound := by
  obtain ⟨g,hg,rfl⟩ := Option.map_eq_some_iff.mp hs
  obtain ⟨f,hf,hfg⟩ := Option.bind_eq_some_iff.mp hg
  obtain ⟨hr,ht,hsound⟩ := hc f g (List.mem_of_getElem? hf) hfg
  exact h.set hf hr ht hsound

/-- Every attempt has one thread, so nothing of it is ever hidden from a lookup. -/
theorem unhidden (h : s.Sound) {act : Helper.Act} {helper' : Helper.State} (hs : Helper.step act s.helper = some helper') :
    Unhidden s.helper act := by
  cases act with
  | lookup i =>
    intro t ht u hu hut
    obtain ⟨j,hj⟩ := List.mem_iff_getElem?.mp hu
    have hi : s.helper.threads[i]? = some t := ht
    obtain ⟨hlt,_⟩ := List.getElem?_eq_some_iff.mp hi
    obtain ⟨hlt',_⟩ := List.getElem?_eq_some_iff.mp hj
    obtain ⟨f,hf,hfi⟩ := h.threads i hlt
    obtain ⟨g,hg,hgj⟩ := h.threads j hlt'
    obtain ⟨t',ht',hft⟩ := (h.flights f hf).owned i hfi
    obtain ⟨u',hu',hgu⟩ := (h.flights g hg).owned j hgj
    cases hi.symm.trans ht'
    cases hj.symm.trans hu'
    have hfg : g = f := h.eq_of_attempt hg hf (by rw [← hgu,← hft,hut])
    subst hfg
    cases hfi.symm.trans hgj
    cases hi.symm.trans hj
    obtain ⟨request,stage⟩ := t
    cases stage with
    | received => simp [Stage.active,Stage.isAnswered]
    | _ => simp [Helper.step,hi] at hs
  | _ => trivial

theorem honest_of_acts {act : Helper.Act} (ha : helperActs act) : Honest act := by
  cases act with
  | dispatch i sequence verdict delivery =>
    cases delivery with
    | answered reply =>
      have hg : Netlink.Genuine reply sequence verdict := by simpa [helperActs] using ha
      exact hg
    | _ => trivial
  | _ => trivial

theorem step (h : s.Sound) {act : Act} (hs : Chain.step act s = some s') : s'.Sound := by
  cases act with
  | begin request outerId innerId =>
    simp only [Chain.step] at hs
    split at hs
    · cases hs
    · next hfresh =>
      cases hs
      have hnew : ∀ f ∈ s.flights, f.request.attemptId ≠ request.attemptId := by simpa using hfresh
      refine ⟨fun x hx => ?_,?_,fun n hn => ?_,h.helper⟩
      · rcases List.mem_append.mp hx with hx | hx
        · exact h.flights x hx
        · cases List.mem_singleton.mp hx
          exact .begin request outerId innerId
      · rw [List.map_append]
        exact List.nodup_append.mpr ⟨h.attempts,by simp,by simpa using hnew⟩
      · obtain ⟨x,hx,hxn⟩ := h.threads n hn
        exact ⟨x,List.mem_append_left _ hx,hxn⟩
  | outer k a =>
    refine h.onFlight hs fun f g hf hg => ?_
    split at hg
    · next ha =>
      obtain ⟨outer,ho,rfl⟩ := Option.map_eq_some_iff.mp hg
      refine ⟨rfl,rfl,(h.flights f hf).moveOuter ho fun fields he => ?_⟩
      subst he
      cases ha
    · cases hg
  | agentAnswer k agentInstanceId hostId =>
    refine h.onFlight hs fun f g hf hg => ?_
    split at hg
    · next answer hc =>
      obtain ⟨outer,ho,rfl⟩ := Option.map_eq_some_iff.mp hg
      refine ⟨rfl,rfl,(h.flights f hf).moveOuter ho fun fields he => ?_⟩
      cases he
      exact ⟨answer,agentInstanceId,hostId,hc,rfl⟩
    · cases hg
  | inner k a =>
    refine h.onFlight hs fun f g hf hg => ?_
    split at hg
    · next ha =>
      obtain ⟨inner,hi,rfl⟩ := Option.map_eq_some_iff.mp hg
      refine ⟨rfl,rfl,(h.flights f hf).moveInner hi (fun he hn => ?_) fun fields he => ?_⟩
      · subst he
        simp [agentActs,hn] at ha
      · subst he
        cases ha
    · cases hg
  | helperServe k =>
    simp only [Chain.step] at hs
    split at hs
    · next f hf =>
      split at hs
      · next inner helper hi hh =>
        cases hs
        have hmem := List.mem_of_getElem? hf
        have hserved := (h.flights f hmem).serve hi hh
        have hunserved : f.thread = none := (h.flights f hmem).unserved (.inr (Hop.step_serve hi).1)
        refine ⟨fun x hx => ?_,h.attempts_set hf rfl,fun n hn => ?_,?_⟩
        · rcases List.mem_or_eq_of_mem_set hx with hx | rfl
          · exact (h.flights x hx).moveHelper hh
          · exact hserved
        · have hself : ({ f with inner, thread := some s.helper.threads.length } : Flight) ∈
              s.flights.set k { f with inner, thread := some s.helper.threads.length } := by
            obtain ⟨hlt,_⟩ := List.getElem?_eq_some_iff.mp hf
            exact List.mem_iff_getElem?.mpr ⟨k,by simp [hlt]⟩
          simp only [Helper.step,Option.some.injEq] at hh
          subst hh
          have hn' : n < (s.helper.threads ++ [_]).length := hn
          rw [List.length_append,List.length_singleton] at hn'
          by_cases hlast : n = s.helper.threads.length
          · exact ⟨_,hself,by rw [hlast]⟩
          · obtain ⟨x,hx,hxn⟩ := h.threads n (by omega)
            obtain ⟨j,hj⟩ := List.mem_iff_getElem?.mp hx
            have hjk : k ≠ j := by
              rintro rfl
              cases hf.symm.trans hj
              rw [hunserved] at hxn; cases hxn
            exact ⟨x,List.mem_iff_getElem?.mpr ⟨j,by
              simp only [State.set]; rw [List.getElem?_set,if_neg hjk]; exact hj⟩,hxn⟩
        · exact Machine.Reach.step (a := .submit f.request) h.helper ⟨trivial,trivial⟩ hh
      · cases hs
    · cases hs
  | helperAnswer k =>
    refine h.onFlight hs fun f g hf hg => ?_
    split at hg
    · next request result replayed hb =>
      obtain ⟨inner,hi,rfl⟩ := Option.map_eq_some_iff.mp hg
      obtain ⟨n,hn,ht⟩ := Option.bind_eq_some_iff.mp hb
      refine ⟨rfl,rfl,(h.flights f hf).moveInner hi (by simp) fun fields he => ?_⟩
      cases he
      exact ⟨n,_,result,replayed,hn,ht,rfl,rfl⟩
    · cases hg
  | helper act =>
    simp only [Chain.step] at hs
    split at hs
    · next ha =>
      obtain ⟨helper,hh,rfl⟩ := Option.map_eq_some_iff.mp hs
      refine ⟨fun x hx => (h.flights x hx).moveHelper hh,h.attempts,fun n hn => h.threads n ?_,
        .step h.helper ⟨h.unhidden hh,honest_of_acts ha⟩ hh⟩
      have hn' : n < helper.threads.length := hn
      rwa [length_threads ha hh] at hn'
    · cases hs

end State.Sound

/-- What the engine is told of a mutation is what became of it, whatever was lost on the way. -/
structure Told (s : State) (f : Flight) (answer : Except CallError Fields) (told : MutationReport) : Prop where
  notWritten : told.outcome = .notWritten → ∀ frame ∈ s.helper.frames,
    frame.request.attemptId = f.request.attemptId → frame.verdict ≠ .accepted
  written : told.outcome = .written → ∃ frame ∈ s.helper.frames, frame.request.attemptId = f.request.attemptId ∧
    frame.verdict = .accepted ∧ ∃ result, frame.result = some result ∧ result.outcome = .written
  unknown : ∀ e, (answer = .error e ∨ (∃ fields, answer = .ok fields) ∧ f.inner.client = .done (.error e)) →
    e.dispatched → told.outcome = .writeUnknown

namespace State.Sound

variable {s : State} {f : Flight}

/-- An attempt without a thread has sent no frame. -/
theorem unframed (h : s.Sound) (hf : f ∈ s.flights) (hn : f.thread = none) :
    ∀ frame ∈ s.helper.frames, frame.request.attemptId ≠ f.request.attemptId := by
  intro frame hframe ha
  obtain ⟨t,ht,hta,_⟩ := (faithful_orderly h.helper).sent frame hframe
  obtain ⟨n,hn'⟩ := List.mem_iff_getElem?.mp ht
  obtain ⟨hlt,_⟩ := List.getElem?_eq_some_iff.mp hn'
  obtain ⟨g,hg,hgn⟩ := h.threads n hlt
  obtain ⟨t',ht',hgt⟩ := (h.flights g hg).owned n hgn
  cases hn'.symm.trans ht'
  have hgf : g = f := h.eq_of_attempt hg hf (by rw [← hgt,hta,ha])
  rw [hgf,hn] at hgn; cases hgn

theorem readMutation_agent (request : SetMtu) (e : CallError) :
    (readMutation (agentMutation request (.error e))).outcome = if e.dispatched then .writeUnknown else .notWritten := by
  simp [readMutation,agentMutation,List.lookup_cons]

theorem readMutation_result (result : MutationResult) (replayed : Bool) :
    (readMutation (resultFields result replayed)).outcome = result.outcome := by
  simp [readMutation,resultFields,List.lookup_cons]

theorem told (h : s.Sound) (hf : f ∈ s.flights) {answer : Except CallError Fields} (hc : f.outer.client = .done answer) :
    ∃ told, report answer = some told ∧ Told s f answer told := by
  have hs := h.flights f hf
  have hunsent : f.inner.server = .absent → ∀ frame ∈ s.helper.frames,
      frame.request.attemptId = f.request.attemptId → frame.verdict ≠ .accepted := fun hn frame hframe ha =>
    absurd ha (h.unframed hf (hs.unserved (.inl hn)) frame hframe)
  cases answer with
  | error e =>
    refine ⟨_,rfl,fun hw => ?_,fun hw => ?_,fun e' he hd => ?_⟩
    · have hd : e.dispatched = false := by
        cases hd : e.dispatched with
        | true => rw [hd] at hw; cases hw
        | false => rfl
      exact hunsent (hs.before (hs.outer.unsent e hc hd))
    · cases hd : e.dispatched <;> rw [hd] at hw <;> cases hw
    · rcases he with he | ⟨⟨_,he⟩,_⟩
      · cases he; rw [hd]; rfl
      · cases he
  | ok fields =>
    obtain ⟨relayed,agentInstanceId,hostId,hinner,rfl⟩ := hs.relayed fields (hs.outer.answered fields hc)
    have hreport : report (.ok (agentFields agentInstanceId hostId (agentMutation f.request relayed))) =
        some (readMutation (agentMutation f.request relayed)) := by
      simp [report,agentFields,List.lookup_cons]
    refine ⟨_,hreport,?_⟩
    cases relayed with
    | error e =>
      have hout := readMutation_agent f.request e
      refine ⟨fun hw => ?_,fun hw => ?_,fun e' he hd => ?_⟩
      · have hd : e.dispatched = false := by
          cases hd : e.dispatched with
          | true => rw [hout,hd] at hw; cases hw
          | false => rfl
        exact hunsent (hs.inner.unsent e hinner hd)
      · cases hd : e.dispatched <;> rw [hout,hd] at hw <;> cases hw
      · rcases he with he | ⟨_,he⟩
        · cases he
        · cases hinner.symm.trans he
          rw [hout,hd]; rfl
    | ok found =>
      obtain ⟨n,t,result,replayed,hn,ht,hstage,rfl⟩ := hs.resulted found (hs.inner.answered found hinner)
      obtain ⟨t',ht',hreq⟩ := hs.owned n hn
      cases ht.symm.trans ht'
      have hmem := List.mem_of_getElem? ht
      have hout : (readMutation (agentMutation f.request (.ok (resultFields result replayed)))).outcome =
          result.outcome := readMutation_result result replayed
      refine ⟨fun hw frame hframe ha => ?_,fun hw => ?_,fun e he hd => ?_⟩
      · have hres := (faithful_orderly h.helper).answered t hmem result replayed hstage frame hframe (by rw [ha,hreq])
        exact ((faithful_truthful h.helper).frames frame hframe result hres).2 (hout.symm.trans hw)
      · obtain ⟨frame,hframe,ha,hres⟩ := (faithful_truthful h.helper).written t hmem result (.inr ⟨replayed,hstage⟩)
          (hout.symm.trans hw)
        exact ⟨frame,hframe,by rw [ha,hreq],((faithful_truthful h.helper).frames frame hframe result hres).1
          (hout.symm.trans hw),result,hres,hout.symm.trans hw⟩
      · rcases he with he | ⟨_,he⟩
        · cases he
        · cases hinner.symm.trans he

end State.Sound

/-- The kernel's acknowledgement of the request with sequence number 2. -/
def acknowledged : Netlink.Bytes := [20,0,0,0,2,0,0,0,2,0,0,0,0,0,0,0,0,0,0,0]

/-- One mutation all the way to the kernel and back. -/
def roundTrip : List Act :=
  [.begin mtuRequest "outer" "inner",.outer 0 .send,.outer 0 .serve,.inner 0 .send,.helperServe 0,.helper (.lookup 0),
    .helper (.check 0 mtuLink),.helper (.dispatch 0 2 .accepted (.answered acknowledged)),.helper (.remember 0),
    .helperAnswer 0,.inner 0 (.receive 200),.agentAnswer 0 "agent" "host",.outer 0 (.receive 300)]

def Flight.toldWritten (f : Flight) : Bool :=
  match f.outer.client with
  | .done answer => (report answer).any (·.outcome = .written)
  | _ => false

end Chain
end LocalPlane
