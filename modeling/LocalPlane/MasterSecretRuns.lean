import LocalPlane.MasterSecret

/-!
# The master secret, over whole runs

Whoever made the file keeps it until it is given up, and nobody else can make one meanwhile. So
one drawing succeeds at most, and what is loaded after it is what it drew.
-/

set_option linter.dupNamespace false

namespace LocalPlane
namespace MasterSecret

open Base64 (Text)

/-- A token that may be read from a file: that of a file that was there before, or of one with all of its characters written. -/
def Bears : Inode → Text → Prop
  | .found file,token => readSecret file = .ok token
  | .made secret _ written,token => token = tokenUrlsafe secret ∧ 43 ≤ written

theorem bears_of_read {inode : Inode} {token : Text} (h : readSecret inode.file = .ok token) : Bears inode token := by
  cases inode with
  | found file => exact h
  | made secret mode written => exact readSecret_written h

structure Inv (s : State) : Prop where
  entry : ∀ i, s.entry = some i → i < s.inodes.length
  holds : ∀ p i, (s.phase p).holds = some i → s.entry = some i
  alone : ∀ p q i j, (s.phase p).holds = some i → (s.phase q).holds = some j → p = q
  writing : ∀ p i, s.phase p = .writing i → ∃ secret mode written, s.inodes[i]? = some (.made secret mode written) ∧
    validate (writtenFile secret mode 0) = .ok ()
  created : ∀ p i token, s.phase p = .created i token → ∃ secret mode, token = tokenUrlsafe secret ∧
    s.inodes[i]? = some (.made secret mode (payload secret).length) ∧ validate (writtenFile secret mode 0) = .ok ()
  loaded : ∀ p i token, s.phase p = .loaded i token → ∃ inode, s.inodes[i]? = some inode ∧ Bears inode token

section Invariant

variable {s s' : State} {p q i : ℕ} {ph : Phase}

theorem inv_initial (h : initial s) : Inv s := by
  obtain ⟨hidle,hfile⟩ := h
  refine ⟨fun i hi => ?_,fun p i hp => ?_,fun p q i j hp => ?_,fun p i hp => ?_,fun p i token hp => ?_,fun p i token hp => ?_⟩
  · rcases hfile with ⟨-,hentry⟩ | ⟨file,hinodes,hentry⟩
    · rw [hentry] at hi
      cases hi
    · rw [hentry] at hi
      cases hi
      rw [hinodes]
      exact Nat.one_pos
  all_goals
    rw [hidle p] at hp
    cases hp

/-- A process that goes on holds no file that it did not hold, and has been where it says. -/
theorem Inv.goto (hs : Inv s) (hholds : ∀ i, ph.holds = some i → (s.phase p).holds = some i)
    (hwriting : ∀ i, ph = .writing i → s.phase p = .writing i)
    (hcreated : ∀ i token, ph = .created i token → ∃ secret mode, token = tokenUrlsafe secret ∧
      s.inodes[i]? = some (.made secret mode (payload secret).length) ∧ validate (writtenFile secret mode 0) = .ok ())
    (hloaded : ∀ i token, ph = .loaded i token → ∃ inode, s.inodes[i]? = some inode ∧ Bears inode token) : Inv (s.goto p ph) := by
  have hbefore : ∀ q i, ((s.goto p ph).phase q).holds = some i → (s.phase q).holds = some i := by
    intro q i hq
    rcases goto_cases s p q ph with ⟨rfl,hphase⟩ | ⟨-,hphase⟩
    · exact hholds i (hphase ▸ hq)
    · exact hphase ▸ hq
  refine ⟨hs.entry,fun q i hq => hs.holds q i (hbefore q i hq),
    fun q r i j hq hr => hs.alone q r i j (hbefore q i hq) (hbefore r j hr),fun q i hq => ?_,fun q i token hq => ?_,fun q i token hq => ?_⟩
  all_goals rcases goto_cases s p q ph with ⟨rfl,hphase⟩ | ⟨-,hphase⟩ <;> rw [hphase] at hq
  · exact hs.writing q i (hwriting i hq)
  · exact hs.writing q i hq
  · exact hcreated i token hq
  · exact hs.created q i token hq
  · exact hloaded i token hq
  · exact hs.loaded q i token hq

/-- A process that neither holds a file nor has ended. -/
theorem Inv.aside (hs : Inv s) (hholds : ph.holds = none) (hloaded : ∀ i token, ph ≠ .loaded i token) : Inv (s.goto p ph) := by
  refine hs.goto (fun i hi => ?_) (fun i hi => ?_) (fun i token hi => ?_) fun i token hi => absurd hi (hloaded i token)
  · rw [hholds] at hi
    cases hi
  · rw [hi] at hholds
    cases hholds
  · rw [hi] at hholds
    cases hholds

theorem getElem_grown {inodes : List Inode} {i j : ℕ} {inode grown : Inode} (h : inodes[i]? = some inode) :
    (inodes.set i grown)[j]? = if i = j then some grown else inodes[j]? := by
  obtain ⟨hi,-⟩ := List.getElem?_eq_some_iff.mp h
  rw [List.getElem?_set]
  by_cases hij : i = j
  · rw [if_pos hij,if_pos hij,if_pos (hij ▸ hi)]
  · rw [if_neg hij,if_neg hij]

theorem getElem_made {inodes : List Inode} {i : ℕ} {inode : Inode} (made : Inode) (h : inodes[i]? = some inode) :
    (inodes ++ [made])[i]? = some inode := by
  rw [List.getElem?_append_left (List.getElem?_eq_some_iff.mp h).1,h]

theorem Inv.make {secret : Secret} {mode : ℕ} (hs : Inv s) (hentry : s.entry = none)
    (hnext : ph = .writing s.inodes.length ∧ validate (writtenFile secret mode 0) = .ok () ∨ ph = .unlinking s.inodes.length) :
    Inv ({s with inodes := s.inodes ++ [Inode.made secret mode 0],entry := some s.inodes.length}.goto p ph) := by
  have hnobody : ∀ q i, (s.phase q).holds ≠ some i := by
    intro q i hq
    have := hs.holds q i hq
    rw [hentry] at this
    cases this
  have hph : ph.holds = some s.inodes.length := by rcases hnext with ⟨rfl,-⟩ | rfl <;> rfl
  have hholder : ∀ q i, (({s with inodes := s.inodes ++ [Inode.made secret mode 0],entry := some s.inodes.length} : State).goto p ph |>.phase q).holds =
      some i → q = p ∧ i = s.inodes.length := by
    intro q i hq
    rcases goto_cases {s with inodes := s.inodes ++ [Inode.made secret mode 0],entry := some s.inodes.length} p q ph with ⟨rfl,hphase⟩ | ⟨-,hphase⟩
    · rw [hphase,hph] at hq
      cases hq
      exact ⟨rfl,rfl⟩
    · rw [hphase] at hq
      exact absurd hq (hnobody q i)
  refine ⟨fun i hi => ?_,fun q i hq => ?_,fun q r i j hq hr => (hholder q i hq).1.trans (hholder r j hr).1.symm,
    fun q i hq => ?_,fun q i token hq => ?_,fun q i token hq => ?_⟩
  · cases hi
    simp
  · rw [(hholder q i hq).2]
    rfl
  · obtain ⟨rfl,rfl⟩ := hholder q i (by rw [hq]; rfl)
    rw [goto_same] at hq
    rcases hnext with ⟨-,hmode⟩ | rfl
    · exact ⟨secret,mode,0,by simp,hmode⟩
    · cases hq
  · obtain ⟨rfl,rfl⟩ := hholder q i (by rw [hq]; rfl)
    rw [goto_same] at hq
    rw [hq] at hnext
    rcases hnext with ⟨hnext,-⟩ | hnext <;> cases hnext
  · rcases goto_cases {s with inodes := s.inodes ++ [Inode.made secret mode 0],entry := some s.inodes.length} p q ph with ⟨rfl,hphase⟩ | ⟨-,hphase⟩
    · rw [hphase] at hq
      rw [hq] at hph
      cases hph
    · rw [hphase] at hq
      obtain ⟨inode,hinode,hbears⟩ := hs.loaded q i token hq
      exact ⟨inode,getElem_made _ hinode,hbears⟩

theorem Inv.grow {secret : Secret} {mode written count : ℕ} (hs : Inv s) (hwriting : s.phase p = .writing i)
    (hthere : s.inodes[i]? = some (.made secret mode written)) :
    Inv {s with inodes := s.inodes.set i (Inode.made secret mode (written + count))} := by
  refine ⟨fun j hj => ?_,hs.holds,hs.alone,fun q j hq => ?_,fun q j token hq => ?_,fun q j token hq => ?_⟩
  · rw [List.length_set]
    exact hs.entry j hj
  · obtain ⟨secret',mode',written',hinode,hmode⟩ := hs.writing q j hq
    rw [getElem_grown hthere]
    split
    · next hij =>
      subst hij
      rw [hthere] at hinode
      cases hinode
      exact ⟨secret,mode,_,rfl,hmode⟩
    · exact ⟨secret',mode',written',hinode,hmode⟩
  · obtain ⟨secret',mode',htoken,hinode,hmode⟩ := hs.created q j token hq
    have hother : i ≠ j := by
      rintro rfl
      have hpq := hs.alone p q i i (by rw [hwriting]; rfl) (by rw [hq]; rfl)
      subst hpq
      rw [hwriting] at hq
      cases hq
    exact ⟨secret',mode',htoken,by rw [getElem_grown hthere,if_neg hother]; exact hinode,hmode⟩
  · obtain ⟨inode,hinode,hbears⟩ := hs.loaded q j token hq
    rw [getElem_grown hthere]
    split
    · next hij =>
      subst hij
      rw [hthere] at hinode
      cases hinode
      exact ⟨_,rfl,hbears.1,Nat.le_add_right_of_le hbears.2⟩
    · exact ⟨inode,hinode,hbears⟩

theorem Inv.unlink (hs : Inv s) (hunlinking : s.phase p = .unlinking i) : Inv ({s with entry := none}.goto p .stopped) := by
  have hnobody : ∀ q j, (({s with entry := none} : State).goto p .stopped |>.phase q).holds ≠ some j := by
    intro q j hq
    rcases goto_cases {s with entry := none} p q .stopped with ⟨rfl,hphase⟩ | ⟨hne,hphase⟩
    · rw [hphase] at hq
      cases hq
    · rw [hphase] at hq
      exact hne (hs.alone q p j i hq (by rw [hunlinking]; rfl))
  refine ⟨fun j hj => (by cases hj),fun q j hq => absurd hq (hnobody q j),fun q r j k hq => absurd hq (hnobody q j),
    fun q j hq => ?_,fun q j token hq => ?_,fun q j token hq => ?_⟩
  · exact absurd (by rw [hq]; rfl) (hnobody q j)
  · exact absurd (by rw [hq]; rfl) (hnobody q j)
  · rcases goto_cases {s with entry := none} p q .stopped with ⟨rfl,hphase⟩ | ⟨-,hphase⟩
    · rw [hphase] at hq
      cases hq
    · rw [hphase] at hq
      exact hs.loaded q j token hq

theorem inv_moved (hs : Inv s) (h : Moved s s') : Inv s' := by
  cases h with
  | stop p => exact hs.aside rfl fun i token => by simp
  | hold p i => exact hs.aside rfl fun i token => by simp
  | draw p secret => exact hs.aside rfl fun i token => by simp
  | load p i inode token held there read =>
    refine hs.goto (fun j hj => (by cases hj)) (fun j hj => (by cases hj)) (fun j token' hj => (by cases hj)) fun j token' hj => ?_
    cases hj
    exact ⟨inode,there,bears_of_read read⟩
  | make p secret mode ph absent entry next => exact hs.make entry next
  | grow p i secret mode written count writing there fits => exact hs.grow writing there
  | giveUp p i writing =>
    refine hs.goto (fun j hj => ?_) (fun j hj => (by cases hj)) (fun j token hj => (by cases hj)) fun j token hj => (by cases hj)
    rw [writing]
    exact hj
  | finish p i secret mode writing there =>
    refine hs.goto (fun j hj => ?_) (fun j hj => (by cases hj)) (fun j token hj => ?_) fun j token hj => (by cases hj)
    · rw [writing]
      exact hj
    · cases hj
      obtain ⟨secret',mode',written',hinode,hmode⟩ := hs.writing p i writing
      rw [there] at hinode
      cases hinode
      exact ⟨secret,mode,rfl,there,hmode⟩
  | unlink p i unlinking => exact hs.unlink unlinking

theorem reached_inv (h : processes.Reach Machine.free s) : Inv s :=
  h.invariant (I:=Inv) (fun _ => inv_initial) fun _ _ _ hs _ hstep => inv_moved hs (moved hstep)

end Invariant

section Futures

variable {s s' : State} {p q i : ℕ} {secret : Secret} {mode written : ℕ}

/-- Where a process may come to that begins when the file stands, and what a reader of the file is given. -/
def Since (i : ℕ) (token : Option Text) (ph : Phase) : Prop :=
  ph = .idle ∨ ph = .stopped ∨ ph = .held i ∨ ∃ t, token = some t ∧ ph = .loaded i t

/-- A file that stands and that nobody writes or gives up: who begins now reads it, or is stopped by it. -/
structure Standing (i : ℕ) (inode : Inode) (q : ℕ) (s : State) : Prop where
  entry : s.entry = some i
  there : s.inodes[i]? = some inode
  unheld : ∀ p, s.phase p ≠ .writing i ∧ s.phase p ≠ .unlinking i
  since : Since i (readSecret inode.file).toOption (s.phase q)

theorem Standing.goto {inode : Inode} {ph : Phase} (h : Standing i inode q s) (hheld : ph ≠ .writing i ∧ ph ≠ .unlinking i)
    (hsince : p = q → Since i (readSecret inode.file).toOption ph) : Standing i inode q (s.goto p ph) := by
  refine ⟨h.entry,h.there,fun r => ?_,?_⟩
  · rcases goto_cases s p r ph with ⟨-,hphase⟩ | ⟨-,hphase⟩
    · rw [hphase]
      exact hheld
    · rw [hphase]
      exact h.unheld r
  · rcases goto_cases s p q ph with ⟨heq,hphase⟩ | ⟨-,hphase⟩
    · rw [hphase]
      exact hsince heq.symm
    · rw [hphase]
      exact h.since

theorem Standing.kept {inode : Inode} (hs : Inv s) (h : Standing i inode q s) (hmoved : Moved s s') : Standing i inode q s' := by
  have hsame : ∀ {p j}, (s.phase p).holds = some j → j = i := by
    intro p j hp
    have hentry := hs.holds p j hp
    rw [h.entry] at hentry
    cases hentry
    rfl
  cases hmoved with
  | stop p => exact h.goto ⟨by simp,by simp⟩ fun _ => .inr (.inl rfl)
  | hold p j idle entry =>
    rw [h.entry] at entry
    cases entry
    exact h.goto ⟨by simp,by simp⟩ fun _ => .inr (.inr (.inl rfl))
  | load p j found token held there read =>
    refine h.goto ⟨by simp,by simp⟩ fun heq => ?_
    subst heq
    rcases h.since with hphase | hphase | hphase | ⟨t,-,hphase⟩
    all_goals rw [hphase] at held; cases held
    rw [h.there] at there
    cases there
    exact .inr (.inr (.inr ⟨token,by rw [read]; rfl,rfl⟩))
  | draw p secret idle entry =>
    rw [h.entry] at entry
    cases entry
  | make p secret mode ph absent entry =>
    rw [h.entry] at entry
    cases entry
  | grow p j secret mode written count writing =>
    cases hsame (j:=j) (p:=p) (by rw [writing]; rfl)
    exact absurd writing (h.unheld p).1
  | giveUp p j writing =>
    cases hsame (j:=j) (p:=p) (by rw [writing]; rfl)
    exact absurd writing (h.unheld p).1
  | finish p j secret mode writing =>
    cases hsame (j:=j) (p:=p) (by rw [writing]; rfl)
    exact absurd writing (h.unheld p).1
  | unlink p j unlinking =>
    cases hsame (j:=j) (p:=p) (by rw [unlinking]; rfl)
    exact absurd unlinking (h.unheld p).2

def Keeps (i : ℕ) (inode : Inode) (q : ℕ) (s s' : State) : Prop := Standing i inode q s → Standing i inode q s'

theorem Standing.steps {inode : Inode} (hs : processes.Reach Machine.free s) (h : Standing i inode q s)
    (hsteps : processes.Steps Machine.free s s') : Standing i inode q s' := by
  refine hsteps.relation (K:=Keeps i inode q) (fun _ h => h) (fun t u v hfirst hsecond => ?_) (fun a t t' hreach _ hstep => ?_) hs h
  · exact fun ht : Standing i inode q t => hsecond (hfirst ht)
  · exact fun ht : Standing i inode q t => ht.kept (reached_inv hreach) (moved hstep)

theorem readSecret_short (h : written < 43) : (readSecret (writtenFile secret mode written)).toOption = none := by
  cases hread : readSecret (writtenFile secret mode written) with
  | error e => rfl
  | ok token => exact absurd (readSecret_written hread).2 (Nat.not_le.mpr h)

/-- Of all the processes that draw a secret one succeeds at most. What is read is a secret written out, or stood there before.
Where a drawing has succeeded every later process that reads anything reads what it drew; where one has died over the first
characters of its secret none reads or draws anything. -/
theorem secret_agreed (h : processes.Reach Machine.free s) :
    (∀ p q i j t t', s.phase p = .created i t → s.phase q = .created j t' → p = q) ∧
    (∀ q i t, s.phase q = .loaded i t → ∃ inode, s.inodes[i]? = some inode ∧ Bears inode t) ∧
    (∀ p i t, s.phase p = .created i t → ∀ q, s.phase q = .idle → ∀ s', processes.Steps Machine.free s s' →
      Since i (some t) (s'.phase q) ∧ ∃ inode, s'.inodes[i]? = some inode ∧ readSecret inode.file = .ok t) ∧
    ∀ i secret mode written, s.entry = some i → s.inodes[i]? = some (.made secret mode written) → written < 43 →
      (∀ p, (s.phase p).holds = none) → ∀ q, s.phase q = .idle → ∀ s', processes.Steps Machine.free s s' →
      Since i none (s'.phase q) ∧ s'.entry = some i := by
  have hs := reached_inv h
  refine ⟨fun p q i j t t' hp hq => ?_,hs.loaded,fun p i t hp q hq s' hsteps => ?_,
    fun i secret mode written hentry hthere hshort hnobody q hq s' hsteps => ?_⟩
  · exact hs.alone p q i j (by rw [hp]; rfl) (by rw [hq]; rfl)
  · obtain ⟨secret,mode,rfl,hthere,hmode⟩ := hs.created p i t hp
    have hlength : 43 ≤ (payload secret).length := by
      rw [payload,List.length_append,(token_shape secret).2.1]
      exact Nat.le_succ 43
    have hread : readSecret (Inode.made secret mode (payload secret).length).file = .ok (tokenUrlsafe secret) :=
      readSecret_whole hmode hlength
    have hunheld : ∀ r, s.phase r ≠ .writing i ∧ s.phase r ≠ .unlinking i := by
      intro r
      constructor
      all_goals
        intro hr
        have hpr := hs.alone p r i i (by rw [hp]; rfl) (by rw [hr]; rfl)
        subst hpr
        rw [hp] at hr
        cases hr
    have hstanding : Standing i (.made secret mode (payload secret).length) q s :=
      ⟨hs.holds p i (by rw [hp]; rfl),hthere,hunheld,.inl hq⟩
    have hlater := hstanding.steps h hsteps
    have hsince := hlater.since
    rw [hread] at hsince
    exact ⟨hsince,_,hlater.there,hread⟩
  · have hunheld : ∀ r, s.phase r ≠ .writing i ∧ s.phase r ≠ .unlinking i := by
      intro r
      constructor
      all_goals
        intro hr
        have hnone := hnobody r
        rw [hr] at hnone
        cases hnone
    have hstanding : Standing i (.made secret mode written) q s := ⟨hentry,hthere,hunheld,.inl hq⟩
    have hlater := hstanding.steps h hsteps
    have hsince := hlater.since
    rw [Inode.file,readSecret_short hshort] at hsince
    exact ⟨hsince,hlater.entry⟩

end Futures

/-- One process draws a secret of zeros and writes it in two pieces. -/
def zeros : Secret := ⟨List.replicate 32 0,rfl⟩

def drawing : List Act := [.look 0 zeros,.create 0 0o600,.write 0 40,.write 0 4,.finish 0]

def drawn (s : State) : Bool :=
  match s.phase 0,s.phase 1 with
  | .created 0 token,.idle => token = tokenUrlsafe zeros
  | _,_ => false

theorem secret_agreed_drawn : ∃ s, s.phase 0 = .created 0 (tokenUrlsafe zeros) ∧ s.phase 1 = .idle ∧
    ∀ s', processes.Steps Machine.free s s' → Since 0 (some (tokenUrlsafe zeros)) (s'.phase 1) := by
  have hstart : processes.initial (⟨[],none,fun _ => .idle⟩ : State) := ⟨fun _ => rfl,.inl ⟨rfl,rfl⟩⟩
  obtain ⟨s,hreach,hdrawn⟩ := Machine.exists_of_play (R:=Machine.free) hstart drawing drawn (by decide)
  unfold drawn at hdrawn
  split at hdrawn
  · next token hzero hone =>
    have htoken := of_decide_eq_true hdrawn
    subst htoken
    exact ⟨s,hzero,hone,fun s' hsteps => ((secret_agreed hreach).2.2.1 0 0 _ hzero 1 hone s' hsteps).1⟩
  · cases hdrawn

end MasterSecret
end LocalPlane
