import LocalPlane.ResourceHook

/-!
# What a component is shown, over whole runs

Components come and go, change keys, refresh and re-read while requests settle in any order.
The invariant says of each request whom it was sent for and who waits for it, and of each
component which request the body it holds came from.
-/

set_option linter.dupNamespace false

namespace LocalPlane
namespace ResourceHook
open Url RequestSharing

variable {β : Type} {s s' : State β} {c : ℕ} {C : Component β} {e : Effect} {b : Body β}

/-- A body that a request sent for the key was answered with. -/
def Fetched (s : State β) (b : Body β) (key : Text) : Prop :=
  ∃ flight, s.sharing.flights b.flight = some flight ∧ flight.key = key ∧ flight.settled = some (.body b.data)

/-- The request a component waits on. -/
def waitsFor (s : State β) (c : ℕ) : Option ℕ := (s.components c).bind fun C => C.effect.map (·.flight)

/-- Components are shown their own key's bodies only, refreshes are answered by requests sent since, and a
request is given up exactly when nobody is left who waits on it. -/
structure Sound (s : State β) : Prop where
  own : ∀ c C b, s.components c = some C → C.shown.body = some b → Fetched s b C.rendered.key
  fresh : ∀ c C e, s.components c = some C → C.effect = some e → e.since ≤ e.flight ∧ s.heard e.deps.globalNonce ≤ e.flight
  taken : ∀ c C, s.components c = some C → (C.rendered.nonce = C.nonce → C.asked = 0) ∧
    ∀ e, C.effect = some e → e.deps = C.rendered → C.since ≤ e.since
  waited : ∀ f flight, s.sharing.flights f = some flight → (flight.aborted = true ↔ ∀ c, waitsFor s c ≠ some f)

/-- A body held for the key that is rendered stays, and stays in view, until something is delivered. -/
def Keeps (s : State β) (a : Act β) (s' : State β) : Prop :=
  ∀ c C C' b, s.components c = some C → s'.components c = some C' → C.resource.body = some b →
    Fetched s b C.rendered.key → C'.rendered.key = C.rendered.key → (∀ now, a ≠ .deliver c now) →
    C'.resource.body = some b ∧ (C.shown.body = some b → C'.shown.body = some b)

/-- A render under another key finds no body held, and an effect that takes up a refresh finds no request in
flight, under the key it would share, from before that refresh. -/
def allowed (s : State β) : Act β → Bool
  | .render c key => (s.components c).all fun C => key = C.rendered.key || C.resource.body.isNone
  | .effect c => (s.components c).all fun C => (s.sharing.inFlight (flightKey C.rendered)).all (C.since ≤ ·)
  | _ => true

section Keys

theorem append_cons_inj {α : Type} {x : α} {a b p q : List α} (hp : x ∉ p) (hq : x ∉ q)
    (h : a ++ x :: p = b ++ x :: q) : a = b ∧ p = q := by
  have hr : p.reverse ++ x :: a.reverse = q.reverse ++ x :: b.reverse := by
    simpa using congrArg List.reverse h
  have hinj : ∀ {p q a b : List α}, x ∉ p → x ∉ q → p ++ x :: a = q ++ x :: b → p = q ∧ a = b := by
    intro p
    induction p with
    | nil =>
      intro q a b _ hq h
      cases q with
      | nil => exact ⟨rfl,(List.cons.inj h).2⟩
      | cons y q => exact absurd (List.cons.inj h).1 fun he => hq (he ▸ List.mem_cons_self)
    | cons y p ih =>
      intro q a b hp hq h
      cases q with
      | nil => exact absurd (List.cons.inj h).1 fun he => hp (he ▸ List.mem_cons_self)
      | cons z q =>
        obtain ⟨hyz,h⟩ := List.cons.inj h
        have := ih (fun hm => hp (List.mem_cons_of_mem _ hm)) (fun hm => hq (List.mem_cons_of_mem _ hm)) h
        exact ⟨by rw [hyz,this.1],this.2⟩
  have := hinj (by simpa using hp) (by simpa using hq) hr
  exact ⟨List.reverse_injective this.2,List.reverse_injective this.1⟩

theorem hash_not_mem_digits (n : ℕ) : '#' ∉ digits n := fun h => absurd (isDigit_of_mem_digits h) (by decide)

/-- Whatever the key holds, the counters can be told from it. -/
theorem flightKey_injective : Function.Injective flightKey := by
  intro d d' h
  have hflat : (d.key ++ '#' :: digits d.nonce) ++ '#' :: digits d.globalNonce =
      (d'.key ++ '#' :: digits d'.nonce) ++ '#' :: digits d'.globalNonce := by simpa [flightKey] using h
  obtain ⟨hfront,hglobal⟩ := append_cons_inj (hash_not_mem_digits _) (hash_not_mem_digits _) hflat
  obtain ⟨hkey,hnonce⟩ := append_cons_inj (hash_not_mem_digits _) (hash_not_mem_digits _) hfront
  cases d
  cases d'
  simp only [Deps.mk.injEq]
  exact ⟨hkey,digits_inj hnonce,digits_inj hglobal⟩

end Keys

/-- What holds of a mounted component. -/
structure Component.Inv (s : State β) (C : Component β) : Prop where
  rendered : C.rendered.globalNonce ≤ s.globalRefreshCount
  nonce : C.rendered.nonce ≤ C.nonce
  counters : C.asked ≤ s.sharing.begun ∧ C.since ≤ s.sharing.begun
  taken : (C.rendered.nonce = C.nonce → C.asked = 0) ∧ ∀ e, C.effect = some e → e.deps = C.rendered → C.since ≤ e.since
  holds : ∀ e, C.effect = some e →
    (∃ flight, s.sharing.flights e.flight = some flight ∧ flight.flightKey = flightKey e.deps) ∧ e.since ≤ e.flight
  keyed : ∀ e k b, C.effect = some e → C.dataRef = some (k,b) → k = e.deps.key
  data : ∀ k b, C.dataRef = some (k,b) → Fetched s b k
  resource : ∀ b, C.resource.body = some b → ∃ k, C.dataRef = some (k,b)
  shown : ∀ b, C.shown.body = some b → Fetched s b C.rendered.key

structure Inv (s : State β) : Prop where
  waiting : ∃ W : ℕ → Finset ℕ, (∀ c f, c ∈ W f ↔ waitsFor s c = some f) ∧ Counted W s.sharing
  sent : ∀ f flight, s.sharing.flights f = some flight → ∃ d : Deps, flight.key = d.key ∧ flight.flightKey = flightKey d ∧
    s.heard d.globalNonce ≤ f ∧ d.globalNonce ≤ s.globalRefreshCount
  heard : ∀ n, s.heard n ≤ s.sharing.begun
  component : ∀ c C, s.components c = some C → C.Inv s

section Moved

theorem Fetched.later (hext : s.sharing.Extends s'.sharing) {key : Text} (h : Fetched s b key) : Fetched s' b key := by
  obtain ⟨a,ha,hkey,hsettled⟩ := h
  obtain ⟨a',ha',hcont⟩ := hext.flights _ _ ha
  exact ⟨a',ha',hcont.key.trans hkey,hcont.settled _ hsettled⟩

theorem Component.Inv.later (h : C.Inv s) (hcount : s.globalRefreshCount ≤ s'.globalRefreshCount)
    (hext : s.sharing.Extends s'.sharing) : C.Inv s' where
  rendered := h.rendered.trans hcount
  nonce := h.nonce
  counters := ⟨h.counters.1.trans hext.begun,h.counters.2.trans hext.begun⟩
  taken := h.taken
  holds e he := by
    obtain ⟨⟨a,ha,hkey⟩,hsince⟩ := h.holds e he
    obtain ⟨a',ha',hcont⟩ := hext.flights _ _ ha
    exact ⟨⟨a',ha',hcont.flightKey.trans hkey⟩,hsince⟩
  keyed := h.keyed
  data k b hb := (h.data k b hb).later hext
  resource := h.resource
  shown b hb := (h.shown b hb).later hext

/-- What a step of one component has to bring along. -/
theorem Inv.moved (h : Inv s) (hheard : s'.heard = s.heard) (hcount : s'.globalRefreshCount = s.globalRefreshCount)
    (hext : s.sharing.Extends s'.sharing)
    (hwait : ∃ W : ℕ → Finset ℕ, (∀ c f, c ∈ W f ↔ waitsFor s' c = some f) ∧ Counted W s'.sharing)
    (hsent : ∀ f b, s.sharing.begun ≤ f → f < s'.sharing.begun → s'.sharing.flights f = some b → ∃ d : Deps, b.key = d.key ∧
      b.flightKey = flightKey d ∧ s.heard d.globalNonce ≤ f ∧ d.globalNonce ≤ s.globalRefreshCount)
    (hcomp : ∀ c C, s'.components c = some C → s.components c = some C ∨ C.Inv s') : Inv s' where
  waiting := hwait
  sent f b hb := by
    rw [hheard,hcount]
    by_cases hf : s.sharing.begun ≤ f
    · exact hsent f b hf (hwait.choose_spec.2.known f b hb) hb
    · obtain ⟨a,ha,hcont⟩ := hext.old f b (not_le.mp hf) hb
      obtain ⟨d,hkey,hflight,hrest⟩ := h.sent f a ha
      exact ⟨d,hcont.key.trans hkey,hcont.flightKey.trans hflight,hrest⟩
  heard n := by
    rw [hheard]
    exact (h.heard n).trans hext.begun
  component c C hC := (hcomp c C hC).elim (fun hold => (h.component c C hold).later hcount.ge hext) id

/-- A component goes on with the request it waits on. -/
theorem Inv.put (h : Inv s) (hC : C.Inv s) (hwait : C.effect.map (·.flight) = waitsFor s c) : Inv (s.put c C) := by
  have hsame : ∀ d, waitsFor (s.put c C) d = waitsFor s d := by
    intro d
    by_cases hd : d = c
    · subst hd
      rw [← hwait]
      simp [waitsFor,State.put]
    · simp [waitsFor,State.put,Function.update_of_ne hd]
  obtain ⟨W,hW,hcounted⟩ := h.waiting
  refine h.moved rfl rfl (.refl _) ⟨W,fun d f => by rw [hsame,hW],hcounted⟩
    (fun f b hf hlt _ => absurd hlt (not_lt.mpr hf)) fun d D hD => ?_
  by_cases hd : d = c
  · subst hd
    simp only [State.put,Function.update_self,Option.some.injEq] at hD
    have hext : s.sharing.Extends (s.put d C).sharing := .refl _
    exact .inr (hD ▸ hC.later (le_refl s.globalRefreshCount) hext)
  · simp only [State.put,Function.update_of_ne hd] at hD
    exact .inl hD

end Moved

section Steps

theorem inv_initial : Inv (initial : State β) where
  waiting := ⟨fun _ => ∅,fun _ _ => by simp [waitsFor,initial],fun _ _ h => (by cases h),fun _ h => absurd h (by simp),
    fun _ _ h => (by cases h),fun _ _ h => (by cases h)⟩
  sent _ _ h := by cases h
  heard _ := le_rfl
  component _ _ h := by cases h

theorem waitsFor_of (hC : s.components c = some C) : waitsFor s c = C.effect.map (·.flight) := by simp [waitsFor,hC]

theorem inv_mount {key : Text} (h : Inv s) (hs : step (.mount c key) s = some s') : Inv s' := by
  simp only [step] at hs
  split at hs
  · next hnone =>
    cases hs
    refine h.put ⟨le_rfl,le_rfl,⟨Nat.zero_le _,Nat.zero_le _⟩,⟨fun _ => rfl,fun _ he => (by cases he)⟩,fun _ he => (by cases he),
      fun _ _ _ he => (by cases he),fun _ _ hb => (by cases hb),fun _ hb => (by cases hb),fun _ hb => (by cases hb)⟩ ?_
    simp [waitsFor,Option.isNone_iff_eq_none.mp hnone,Component.mounted]
  · cases hs

/-- What a component holds once its effects have run is a body of the key that was rendered. -/
theorem fetched_of_flushed (hC : C.Inv s) (hflushed : C.flushed = true) (hb : C.resource.body = some b) :
    Fetched s b C.rendered.key := by
  obtain ⟨e,he,hdeps⟩ := (Option.any_eq_true ..).mp hflushed
  obtain ⟨k,hdata⟩ := hC.resource b hb
  have hkey := hC.keyed e k b he hdata
  rw [of_decide_eq_true hdeps] at hkey
  exact hkey ▸ hC.data k b hdata

theorem inv_render {key : Text} (h : Inv s) (hal : allowed s (.render c key) = true) (hs : step (.render c key) s = some s') :
    Inv s' := by
  simp only [step] at hs
  obtain ⟨C,hC,hs⟩ := Option.bind_eq_some_iff.mp hs
  have hI := h.component c C hC
  split at hs
  · next hflushed =>
    cases hs
    refine h.put ⟨le_rfl,le_rfl,⟨Nat.zero_le _,hI.counters.1⟩,⟨fun _ => rfl,fun e he hdeps => ?_⟩,hI.holds,hI.keyed,hI.data,
      hI.resource,fun b hb => ?_⟩ (waitsFor_of hC).symm
    · -- nothing new is depended on, so no refresh was taken up
      obtain ⟨e',he',hdeps'⟩ := (Option.any_eq_true ..).mp hflushed
      rw [show C.effect = some e from he] at he'
      cases he'
      have hnonce : C.rendered.nonce = C.nonce := by rw [← of_decide_eq_true hdeps',hdeps]; rfl
      simp [Component.render,hI.taken.1 hnonce]
    · have hfetched := fetched_of_flushed hI hflushed hb
      simp only [allowed,hC,Option.all_some,Bool.or_eq_true,decide_eq_true_eq] at hal
      rcases hal with hkey | hnone
      · exact hkey ▸ hfetched
      · rw [show C.resource.body = some b from hb] at hnone
        cases hnone
  · cases hs

theorem inv_refresh (h : Inv s) (hs : step (.refresh c) s = some s') : Inv s' := by
  obtain ⟨C,hC,rfl⟩ := Option.map_eq_some_iff.mp hs
  have hI := h.component c C hC
  have hnonce : C.rendered.nonce ≠ C.nonce + 1 := (Nat.lt_succ_of_le hI.nonce).ne
  exact h.put ⟨hI.rendered,Nat.le_succ_of_le hI.nonce,⟨le_rfl,hI.counters.2⟩,⟨fun heq => absurd heq hnonce,hI.taken.2⟩,hI.holds,hI.keyed,hI.data,
    hI.resource,hI.shown⟩ (waitsFor_of hC).symm

theorem inv_refreshAll (h : Inv s) (hs : step .refreshAll s = some s') : Inv s' := by
  cases hs
  refine ⟨h.waiting,fun f b hb => ?_,fun n => ?_,fun c C hC => (h.component c C hC).later (Nat.le_succ _) (.refl s.sharing)⟩
  · obtain ⟨d,hkey,hflight,hheard,hcount⟩ := h.sent f b hb
    have hne : d.globalNonce ≠ s.globalRefreshCount + 1 := (Nat.lt_succ_of_le hcount).ne
    exact ⟨d,hkey,hflight,by simpa only [Function.update_of_ne hne] using hheard,Nat.le_succ_of_le hcount⟩
  · by_cases hn : n = s.globalRefreshCount + 1
    · simp [hn]
    · simpa only [Function.update_of_ne hn] using h.heard n

/-- The clean-up of an effect leaves everyone else waiting, and nobody for it. -/
theorem released (h : Inv s) (hC : s.components c = some C) (he : C.effect = some e) :
    (∃ W : ℕ → Finset ℕ, (∀ d f, d ∈ W f ↔ waitsFor s d = some f ∧ d ≠ c) ∧ Counted W (cleaned e s).sharing) ∧
      s.sharing.Extends (cleaned e s).sharing := by
  obtain ⟨W,hW,hcounted⟩ := h.waiting
  obtain ⟨⟨flight,hflight,hkey⟩,_⟩ := (h.component c C hC).holds e he
  have hwaits : waitsFor s c = some e.flight := by rw [waitsFor_of hC,he]; rfl
  obtain ⟨hcounted',hext⟩ := hcounted.release ((hW c e.flight).mpr hwaits) hflight hkey
  refine ⟨⟨_,fun d f => ?_,hcounted'⟩,hext⟩
  by_cases hf : f = e.flight
  · subst hf
    rw [Function.update_self,Finset.mem_erase,hW,and_comm]
  · rw [Function.update_of_ne hf,hW]
    refine ⟨fun hd => ⟨hd,?_⟩,fun hd => hd.1⟩
    rintro rfl
    rw [hwaits] at hd
    exact hf (Option.some.inj hd).symm

theorem inv_gone (h : Inv s) (hC : s.components c = some C) (he : C.effect = some e) {slot : Option (Component β)}
    (hslot : ∀ D, slot = some D → D.effect = none ∧ D.Inv s) :
    Inv { cleaned e s with components := Function.update s.components c slot } := by
  obtain ⟨⟨W,hW,hcounted⟩,hext⟩ := released h hC he
  refine h.moved rfl rfl hext ⟨W,fun d f => ?_,hcounted⟩ (fun f b hf hlt _ => absurd hlt (by simpa [cleaned] using hf))
    fun d D hD => ?_
  · rw [hW]
    by_cases hd : d = c
    · subst hd
      have hnone : slot.bind (fun D => D.effect.map (·.flight)) = none := by
        cases slot with
        | none => rfl
        | some D => simp [(hslot D rfl).1]
      simp [waitsFor,hnone]
    · simp [waitsFor,hd]
  · by_cases hd : d = c
    · subst hd
      simp only [Function.update_self] at hD
      exact .inr ((hslot D hD).2.later (le_refl s.globalRefreshCount) hext)
    · simp only [Function.update_of_ne hd] at hD
      exact .inl hD

theorem Component.Inv.idle (h : C.Inv s) : ({ C with effect := none } : Component β).Inv s :=
  ⟨h.rendered,h.nonce,h.counters,⟨h.taken.1,fun _ he => (by cases he)⟩,fun _ he => (by cases he),fun _ _ _ he => (by cases he),
    h.data,h.resource,h.shown⟩

theorem inv_cleanup (h : Inv s) (hs : step (.cleanup c) s = some s') : Inv s' := by
  obtain ⟨C,hC,hs⟩ := Option.bind_eq_some_iff.mp hs
  obtain ⟨e,he,hs⟩ := Option.bind_eq_some_iff.mp hs
  split at hs
  · cases hs
  · cases hs
    refine inv_gone h hC he fun D hD => ?_
    cases hD
    exact ⟨rfl,(h.component c C hC).idle⟩

theorem inv_unmount (h : Inv s) (hs : step (.unmount c) s = some s') : Inv s' := by
  obtain ⟨C,hC,rfl⟩ := Option.map_eq_some_iff.mp hs
  cases he : C.effect with
  | some e => exact inv_gone h hC he fun D hD => (by cases hD)
  | none =>
    obtain ⟨W,hW,hcounted⟩ := h.waiting
    refine h.moved rfl rfl (.refl s.sharing) ⟨W,fun d f => ?_,hcounted⟩ (fun f b hf hlt _ => absurd hlt (not_lt.mpr hf))
      fun d D hD => ?_
    · rw [hW]
      by_cases hd : d = c
      · subst hd
        simp [waitsFor,hC,he]
      · simp [waitsFor,Function.update_of_ne hd]
    · by_cases hd : d = c
      · simp [hd] at hD
      · simp only [Function.update_of_ne hd] at hD
        exact .inl hD

theorem restart_cases (C : Component β) :
    (∃ b, C.dataRef = some (C.rendered.key,b) ∧ C.restart = { C with resource := .success b true }) ∨
      C.restart = { C with dataRef := none,resource := .loading } := by
  unfold Component.restart
  split
  · next key body hdata =>
    split
    · next hkey => exact .inl ⟨body,hkey ▸ hdata,rfl⟩
    · exact .inr rfl
  · exact .inr rfl

/-- What a component is once its effect has run. -/
theorem Component.Inv.started {f : ℕ} (h : C.Inv s)
    (hflight : ∃ flight, s.sharing.flights f = some flight ∧ flight.flightKey = flightKey C.rendered) (hsince : C.since ≤ f) :
    ({ C.restart with effect := some ⟨C.rendered,f,C.since,false⟩ } : Component β).Inv s := by
  rcases restart_cases C with ⟨b,hdata,hrestart⟩ | hrestart <;> rw [hrestart]
  · refine ⟨h.rendered,h.nonce,h.counters,⟨h.taken.1,fun e he _ => ?_⟩,fun e he => ?_,fun e k b' he hb' => ?_,h.data,
      fun b' hb' => ?_,h.shown⟩
    · cases he
      exact le_rfl
    · cases he
      exact ⟨hflight,hsince⟩
    · cases he
      rw [show C.dataRef = some (k,b') from hb'] at hdata
      cases hdata
      rfl
    · cases hb'
      exact ⟨C.rendered.key,hdata⟩
  · refine ⟨h.rendered,h.nonce,h.counters,⟨h.taken.1,fun e he _ => ?_⟩,fun e he => ?_,fun _ _ _ _ hb' => (by cases hb'),
      fun _ _ hb' => (by cases hb'),fun _ hb' => (by cases hb'),h.shown⟩
    · cases he
      exact le_rfl
    · cases he
      exact ⟨hflight,hsince⟩

theorem inv_effect (h : Inv s) (hal : allowed s (.effect c) = true) (hs : step (.effect c) s = some s') : Inv s' := by
  obtain ⟨C,hC,hs⟩ := Option.bind_eq_some_iff.mp hs
  have hI := h.component c C hC
  split at hs
  · cases hs
  · next hnone =>
    cases hs
    have he : C.effect = none := by simpa using hnone
    obtain ⟨W,hW,hcounted⟩ := h.waiting
    have hidle : ∀ f, c ∉ W f := fun f hm => by simp [hW,waitsFor_of hC,he] at hm
    have hshared : Shared (flightKey C.rendered) C.rendered.key c W s.sharing
      (s.sharing.share (flightKey C.rendered) C.rendered.key) := hcounted.share hidle
    generalize s.sharing.share (flightKey C.rendered) C.rendered.key = r at hshared ⊢
    have hsince : C.since ≤ r.1 := by
      rcases hshared.index with hjoined | ⟨_,hnew⟩
      · simpa [allowed,hC,hjoined] using hal
      · exact hnew ▸ hI.counters.2
    refine h.moved rfl rfl hshared.extended ⟨_,fun d f => ?_,hshared.counted⟩ (fun f b hf _ hb => ?_) fun d D hD => ?_
    · by_cases hf : f = r.1
      · subst hf
        rw [Function.update_self,Finset.mem_insert,hW]
        by_cases hd : d = c
        · simp [hd,waitsFor,State.put]
        · simp [hd,waitsFor,State.put]
      · rw [Function.update_of_ne hf,hW]
        by_cases hd : d = c
        · subst hd
          rw [show waitsFor s d = none by rw [waitsFor_of hC,he]; rfl]
          simp [waitsFor,State.put,Ne.symm hf]
        · simp [waitsFor,State.put,Function.update_of_ne hd]
    · obtain ⟨rfl,hkey,hflight⟩ := hshared.sent f b hf hb
      exact ⟨C.rendered,hkey,hflight,h.heard _,hI.rendered⟩
    · by_cases hd : d = c
      · subst hd
        simp only [State.put,Function.update_self,Option.some.injEq] at hD
        subst hD
        have hlater : C.Inv { s with sharing := r.2 } := hI.later (le_refl s.globalRefreshCount) hshared.extended
        exact .inr (Component.Inv.later (hlater.started hshared.joined hsince) (le_refl s.globalRefreshCount) (.refl r.2))
      · simp only [State.put,Function.update_of_ne hd] at hD
        exact .inl hD

/-- Requests settle, and what is chained to them runs, without anyone coming or going. -/
theorem inv_sharing {sharing : Sharing β} (h : Inv s) (hcounted : ∀ W : ℕ → Finset ℕ, Counted W s.sharing → Counted W sharing)
    (hext : s.sharing.Extends sharing) (hbegun : sharing.begun = s.sharing.begun) : Inv { s with sharing } := by
  obtain ⟨W,hW,hold⟩ := h.waiting
  exact h.moved rfl rfl hext ⟨W,hW,hcounted W hold⟩ (fun f b hf hlt _ => absurd hlt (by simpa [hbegun] using hf))
    fun d D hD => .inl hD

theorem inv_settle {f : ℕ} {answer : Settled β} (h : Inv s) (hs : step (.settle f answer) s = some s') : Inv s' := by
  obtain ⟨sharing,hsettle,rfl⟩ := Option.map_eq_some_iff.mp hs
  have hlaw := fun (W : ℕ → Finset ℕ) (hW : Counted W s.sharing) => hW.settle hsettle
  obtain ⟨W,_,hcounted⟩ := h.waiting
  exact inv_sharing h (fun W hW => (hlaw W hW).1) (hlaw W hcounted).2.1 (hlaw W hcounted).2.2

theorem inv_finish {f : ℕ} (h : Inv s) (hs : step (.finish f) s = some s') : Inv s' := by
  obtain ⟨sharing,hfinish,rfl⟩ := Option.map_eq_some_iff.mp hs
  have hlaw := fun (W : ℕ → Finset ℕ) (hW : Counted W s.sharing) => hW.finish hfinish
  obtain ⟨W,_,hcounted⟩ := h.waiting
  exact inv_sharing h (fun W hW => (hlaw W hW).1) (hlaw W hcounted).2.1 (hlaw W hcounted).2.2

/-- A request was sent for the key of everyone who waits on it. -/
theorem key_of_waiting {flight : Flight β} (h : Inv s) (hC : s.components c = some C) (he : C.effect = some e)
    (hflight : s.sharing.flights e.flight = some flight) : flight.key = e.deps.key ∧ s.heard e.deps.globalNonce ≤ e.flight := by
  obtain ⟨⟨flight',hflight',hkey'⟩,_⟩ := (h.component c C hC).holds e he
  rw [hflight] at hflight'
  cases hflight'
  obtain ⟨d,hkey,hflightKey,hheard,_⟩ := h.sent _ _ hflight
  have hd : d = e.deps := flightKey_injective (hflightKey.symm.trans hkey')
  exact ⟨hd ▸ hkey,hd ▸ hheard⟩

theorem inv_deliver {now : ℕ} (h : Inv s) (hs : step (.deliver c now) s = some s') : Inv s' := by
  obtain ⟨C,hC,hs⟩ := Option.bind_eq_some_iff.mp hs
  obtain ⟨e,he,hs⟩ := Option.bind_eq_some_iff.mp hs
  obtain ⟨flight,hflight,hs⟩ := Option.bind_eq_some_iff.mp hs
  have hI := h.component c C hC
  split at hs
  · cases hs
  · obtain ⟨answer,hsettled,rfl⟩ := Option.map_eq_some_iff.mp hs
    have hkey := (key_of_waiting h hC he hflight).1
    have hwait : waitsFor s c = some e.flight := by rw [waitsFor_of hC,he]; rfl
    -- the effect goes on with the request it has
    have htaken : ∀ e', some { e with answered := true } = some e' → e'.deps = C.rendered → C.since ≤ e'.since :=
      fun e' he' hdeps => by cases he'; exact hI.taken.2 e he hdeps
    have hholds : ∀ e', some { e with answered := true } = some e' →
        (∃ flight, s.sharing.flights e'.flight = some flight ∧ flight.flightKey = flightKey e'.deps) ∧ e'.since ≤ e'.flight :=
      fun e' he' => by cases he'; exact hI.holds e he
    have hkeyed : ∀ e' k b, some { e with answered := true } = some e' → C.dataRef = some (k,b) → k = e'.deps.key :=
      fun e' k b he' hb => by cases he'; exact hI.keyed e k b he hb
    cases answer with
    | body data =>
      have hfetched : Fetched s ⟨e.flight,data,now⟩ e.deps.key := ⟨flight,hflight,hkey,hsettled⟩
      refine h.put ⟨hI.rendered,hI.nonce,hI.counters,⟨hI.taken.1,htaken⟩,hholds,fun e' k b he' hb => ?_,fun k b hb => ?_,
        fun b hb => ?_,hI.shown⟩ hwait.symm
      · cases he'
        cases hb
        rfl
      · cases hb
        exact hfetched
      · cases hb
        exact ⟨_,rfl⟩
    | failed cause =>
      simp only [Component.deliver]
      split
      · exact h.put ⟨hI.rendered,hI.nonce,hI.counters,⟨hI.taken.1,htaken⟩,hholds,hkeyed,hI.data,hI.resource,hI.shown⟩ hwait.symm
      · exact h.put ⟨hI.rendered,hI.nonce,hI.counters,⟨hI.taken.1,htaken⟩,hholds,hkeyed,hI.data,fun b hb => (by cases hb),
          hI.shown⟩ hwait.symm

/-- Every step but the two kinds that are ruled out keeps the invariant. -/
theorem inv_step {a : Act β} (h : Inv s) (hal : allowed s a = true) (hs : step a s = some s') : Inv s' := by
  cases a with
  | mount c key => exact inv_mount h hs
  | render c key => exact inv_render h hal hs
  | refresh c => exact inv_refresh h hs
  | refreshAll => exact inv_refreshAll h hs
  | cleanup c => exact inv_cleanup h hs
  | effect c => exact inv_effect h hal hs
  | unmount c => exact inv_unmount h hs
  | settle f answer => exact inv_settle h hs
  | finish f => exact inv_finish h hs
  | deliver c now => exact inv_deliver h hs

end Steps

section Runs

theorem Inv.sound (h : Inv s) : Sound s where
  own c C b hC hb := (h.component c C hC).shown b hb
  fresh c C e hC he := by
    obtain ⟨⟨flight,hflight,_⟩,hsince⟩ := (h.component c C hC).holds e he
    exact ⟨hsince,(key_of_waiting h hC he hflight).2⟩
  taken c C hC := (h.component c C hC).taken
  waited f flight hflight := by
    obtain ⟨W,hW,hcounted⟩ := h.waiting
    rw [(hcounted.counted f flight hflight).2,Finset.eq_empty_iff_forall_notMem]
    exact forall_congr' fun c => not_congr (hW c f)

/-- No step that is taken outside the rule leaves what is promised standing. -/
theorem allowed_of_sound {a : Act β} (h : Inv s) (hs : step a s = some s') (hsound : Sound s') : allowed s a = true := by
  cases a with
  | render c key =>
    obtain ⟨C,hC,hs⟩ := Option.bind_eq_some_iff.mp hs
    simp only [allowed,hC,Option.all_some,Bool.or_eq_true,decide_eq_true_eq]
    split at hs
    · next hflushed =>
      cases hs
      cases hb : C.resource.body with
      | none => exact .inr rfl
      | some b =>
        obtain ⟨flight,hflight,hkey,_⟩ := fetched_of_flushed (h.component c C hC) hflushed hb
        obtain ⟨flight',hflight',hkey',_⟩ := hsound.own c _ b (Function.update_self ..) hb
        rw [show (s.put c (C.render key s.globalRefreshCount)).sharing = s.sharing from rfl,hflight] at hflight'
        cases hflight'
        exact .inl (hkey'.symm.trans hkey)
    · cases hs
  | effect c =>
    obtain ⟨C,hC,hs⟩ := Option.bind_eq_some_iff.mp hs
    simp only [allowed,hC,Option.all_some]
    split at hs
    · cases hs
    · cases hs
      have hfresh := (hsound.fresh c _ _ (Function.update_self ..) rfl).1
      cases hjoin : s.sharing.inFlight (flightKey C.rendered) with
      | none => rfl
      | some f =>
        have hindex : (s.sharing.share (flightKey C.rendered) C.rendered.key).1 = f := by
          simp only [Sharing.share,hjoin]
          split <;> rfl
        simpa [hindex] using hfresh
  | _ => rfl

theorem put_cases {D : Component β} {d : ℕ} (hC' : (s.put c D).components d = some C) :
    d = c ∧ C = D ∨ s.components d = some C := by
  by_cases hd : d = c
  · subst hd
    simp only [State.put,Function.update_self,Option.some.injEq] at hC'
    exact .inl ⟨rfl,hC'.symm⟩
  · simp only [State.put,Function.update_of_ne hd] at hC'
    exact .inr hC'

/-- An effect that starts again for the key a body is held for goes on showing it. -/
theorem restart_keeps (h : C.Inv s) (hb : C.resource.body = some b) (hfetched : Fetched s b C.rendered.key) :
    C.restart.resource.body = some b := by
  obtain ⟨k,hdata⟩ := h.resource b hb
  obtain ⟨flight,hflight,hkey,_⟩ := hfetched
  obtain ⟨flight',hflight',hkey',_⟩ := h.data k b hdata
  rw [hflight] at hflight'
  cases hflight'
  have hk : k = C.rendered.key := hkey'.symm.trans hkey
  simp [Component.restart,hdata,hk,Resource.body]

/-- A step other than a delivery leaves what is held for the rendered key where it is. -/
theorem keeps_step {a : Act β} (h : Inv s) (hs : step a s = some s') : Keeps s a s' := by
  intro d C C' b hC hC' hb hfetched hrendered hdeliver
  -- a component the step does not touch
  have hstays : s.components d = some C' → C'.resource.body = some b ∧ (C.shown.body = some b → C'.shown.body = some b) := by
    intro hsame
    rw [hC] at hsame
    cases hsame
    exact ⟨hb,id⟩
  cases a with
  | mount c key =>
    simp only [step] at hs
    split at hs
    · next hnone =>
      cases hs
      rcases put_cases hC' with ⟨rfl,rfl⟩ | hsame
      · simp [hC] at hnone
      · exact hstays hsame
    · cases hs
  | render c key =>
    obtain ⟨D,hD,hs⟩ := Option.bind_eq_some_iff.mp hs
    split at hs
    · cases hs
      rcases put_cases hC' with ⟨rfl,rfl⟩ | hsame
      · rw [hC] at hD
        cases hD
        exact ⟨hb,fun _ => hb⟩
      · exact hstays hsame
    · cases hs
  | refresh c =>
    obtain ⟨D,hD,rfl⟩ := Option.map_eq_some_iff.mp hs
    rcases put_cases hC' with ⟨rfl,rfl⟩ | hsame
    · rw [hC] at hD
      cases hD
      exact ⟨hb,id⟩
    · exact hstays hsame
  | refreshAll =>
    cases hs
    exact hstays hC'
  | cleanup c =>
    obtain ⟨D,hD,hs⟩ := Option.bind_eq_some_iff.mp hs
    obtain ⟨e,he,hs⟩ := Option.bind_eq_some_iff.mp hs
    split at hs
    · cases hs
    · cases hs
      rcases put_cases hC' with ⟨rfl,rfl⟩ | hsame
      · rw [hC] at hD
        cases hD
        exact ⟨hb,id⟩
      · exact hstays hsame
  | effect c =>
    obtain ⟨D,hD,hs⟩ := Option.bind_eq_some_iff.mp hs
    split at hs
    · cases hs
    · cases hs
      rcases put_cases hC' with ⟨rfl,rfl⟩ | hsame
      · rw [hC] at hD
        cases hD
        refine ⟨restart_keeps (h.component d C hC) hb hfetched,?_⟩
        rcases restart_cases C with ⟨_,_,hrestart⟩ | hrestart <;> rw [hrestart] <;> exact id
      · exact hstays hsame
  | unmount c =>
    obtain ⟨D,hD,rfl⟩ := Option.map_eq_some_iff.mp hs
    by_cases hd : d = c
    · simp [hd] at hC'
    · simp only [Function.update_of_ne hd] at hC'
      cases he : D.effect <;> exact hstays (by simpa [he,cleaned] using hC')
  | settle f answer =>
    obtain ⟨sharing,_,rfl⟩ := Option.map_eq_some_iff.mp hs
    exact hstays hC'
  | finish f =>
    obtain ⟨sharing,_,rfl⟩ := Option.map_eq_some_iff.mp hs
    exact hstays hC'
  | deliver c now =>
    obtain ⟨D,hD,hs⟩ := Option.bind_eq_some_iff.mp hs
    obtain ⟨e,he,hs⟩ := Option.bind_eq_some_iff.mp hs
    obtain ⟨flight,_,hs⟩ := Option.bind_eq_some_iff.mp hs
    split at hs
    · cases hs
    · obtain ⟨answer,_,rfl⟩ := Option.map_eq_some_iff.mp hs
      rcases put_cases hC' with ⟨rfl,rfl⟩ | hsame
      · exact absurd rfl (hdeliver now)
      · exact hstays hsame

/-- Over every run of the console whose steps keep to the rule, what is shown, what answers a refresh and what is
given up are as they should be, and a step keeps them so exactly when it keeps to the rule. -/
theorem resources_sound (s : State β) (h : Machine.Reach (console β) (fun s a => allowed s a = true) s) :
    Sound s ∧ ∀ a s', step a s = some s' → Keeps s a s' ∧ (Sound s' ↔ allowed s a = true) := by
  have hinv : Inv s := h.invariant (fun s hs => by cases hs; exact inv_initial) fun a s s' hI ha hm => inv_step hI ha hm
  exact ⟨hinv.sound,fun a s' hs => ⟨keeps_step hinv hs,allowed_of_sound hinv hs,fun hal => (inv_step hinv hal hs).sound⟩⟩

/-- A body arrives, is shown, and is still shown once a refresh has sent the next request. -/
theorem resources_sound_refreshed : ∃ s : State ℕ, (waitsFor s 0 = some 1 ∧
    (s.components 0).any (fun C => C.shown.body = some ⟨0,7,5⟩) = true) ∧
      Sound s ∧ ∀ a s', step a s = some s' → Keeps s a s' ∧ (Sound s' ↔ allowed s a = true) := by
  obtain ⟨s,hs,hp⟩ := Machine.exists_of_play (M := console ℕ) (R := fun s a => allowed s a = true) rfl
    [.mount 0 ['k'],.effect 0,.settle 0 (.body 7),.finish 0,.deliver 0 5,.render 0 ['k'],.refresh 0,.render 0 ['k'],
      .cleanup 0,.effect 0]
    (fun s => decide (waitsFor s 0 = some 1) && (s.components 0).any fun C => C.shown.body = some ⟨0,7,5⟩) (by decide +kernel)
  rw [Bool.and_eq_true,decide_eq_true_eq] at hp
  exact ⟨s,hp,resources_sound s hs⟩

/-- Two components hold one key, and the second refreshes while the request the first one's refresh sent is
still under way. -/
def joined : List (Act ℕ) :=
  [.mount 0 ['k'],.effect 0,.mount 1 ['k'],.effect 1,.refresh 0,.render 0 ['k'],.cleanup 0,.effect 0,
    .refresh 1,.render 1 ['k'],.cleanup 1]

/-- It is answered by that request, which began before it was asked for. -/
theorem resources_sound_needs_fresh : ∃ s : State ℕ, Machine.Reach (console ℕ) Machine.free s ∧ ¬Sound s := by
  obtain ⟨s,hs,hp⟩ := Machine.exists_of_play (M := console ℕ) (R := Machine.free) rfl (joined ++ [.effect 1])
    (fun s => (s.components 1).any fun C => C.effect.any fun e => e.flight < e.since) (by decide +kernel)
  obtain ⟨C,hC,hp⟩ := (Option.any_eq_true ..).mp hp
  obtain ⟨e,he,hp⟩ := (Option.any_eq_true ..).mp hp
  exact ⟨s,hs,fun h => absurd (h.fresh 1 C e hC he).1 (not_le.mpr (of_decide_eq_true hp))⟩

end Runs

end ResourceHook
end LocalPlane
