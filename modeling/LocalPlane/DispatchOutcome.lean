import LocalPlane.ServiceDispatch

/-!
# What a dispatch may report

Whether the host was asked to change, and what came back, is in the history of the calls.
The report is to be no stronger than that history, however the scopes are left.
-/

set_option linter.dupNamespace false

namespace LocalPlane

open LineProtocol (Json Fields)

namespace Dispatched

open LocalPlane.Routine (wp_bind wp_mono wp_and wp_modify wp_lift wp_locals wp_within wp_handle)

abbrev History := List (Exchange Bus)

/-- What was answered to the calls that change the host. -/
def asked (h : History) : List CallAnswer :=
  h.filterMap fun e => match e with
    | ⟨.lifecycle _ _ _,a⟩ => some a
    | _ => none

/-- A scope that could not be left. -/
def badExit : Exchange Bus → Bool
  | ⟨.unfilterJobs,.error _⟩ => true
  | ⟨.unfilterOwner,.error _⟩ => true
  | ⟨.close,.error _⟩ => true
  | _ => false

/-- The call went out, and neither a job nor a refusal came back. -/
def Unanswered : CallAnswer → Prop
  | .lost _ => True
  | .replied [] => True
  | _ => False

/-- A completion of the job the call returned, for the unit that was asked for, and a manager that was the same
before the call and after the signal, with no change of owner noticed in between. -/
def Heard (h : History) (unitId path result : String) : Prop :=
  ∃ before calling between after jobId owner objectPath member rest,
    h = before ++ ⟨.lifecycle objectPath member systemdDispatchMode,.replied (path :: rest)⟩ :: calling ∧
    calling = between ++ ⟨.receive,.ok (some ⟨jobId,path,unitId,result⟩)⟩ :: ⟨.nameOwner,.ok [.str owner]⟩ ::
      ⟨.ownerChanges,false⟩ :: after ∧ (⟨.nameOwner,.ok [.str owner]⟩ : Exchange Bus) ∈ before

/-- The report is no stronger than what happened. -/
structure Truthful (h : History) (unitId : String) (r : LifecycleDispatchResult) : Prop where
  once : (asked h).length ≤ 1
  notWritten : r.outcome = .notWritten → ∀ a ∈ asked h, (∃ f, a = .unsent f) ∨ ∃ name, a = .refused name
  written : r.outcome = .written → ∃ path, Heard h unitId path jobResultDone

/-- The call that changes the host was not answered, and then a scope could not be left. -/
def Slipped (h : History) : Prop := (∃ a ∈ asked h, Unanswered a) ∧ h.any badExit

section Quiet

variable {α β : Type} {l : Locals} {h t : History} {e : Exchange Bus}

@[simp] theorem asked_append (h t : History) : asked (h ++ t) = asked h ++ asked t := List.filterMap_append

@[simp] theorem wp_perform {call : Call} {Q : LocalPlane.Routine.Post Bus Locals Fault (Bus.Ret call)} :
    (perform call).wp Q l h ↔ ∀ r, Q (.ok r) l (h ++ [⟨call,r⟩]) := Iff.rfl

theorem wp_ask {call : Call} {f : Bus.Ret call → Routine β} {Q : LocalPlane.Routine.Post Bus Locals Fault β} :
    (perform call >>= f).wp Q l h ↔ ∀ r, (f r).wp Q l (h ++ [⟨call,r⟩]) := wp_bind

/-- Nothing was asked of the host and no scope was left badly. -/
def Still (t : History) : Prop := asked t = [] ∧ t.any badExit = false

theorem Still.append (ht : Still t) (hh : Still h) : Still (t ++ h) := by
  simp [Still,ht.1,ht.2,hh.1,hh.2]

/-- A routine that neither asks anything of the host nor leaves a scope, and learns of no job. -/
def Quiet (p : Routine α) : Prop :=
  ∀ l h, p.wp (fun _ l' h' => l'.jobPath = l.jobPath ∧ ∃ t, h' = h ++ t ∧ Still t) l h

theorem quiet_pure (a : α) : Quiet (pure a) := fun _ _ => ⟨rfl,[],by simp,rfl,rfl⟩

theorem quiet_raise (f : Fault) : Quiet (LocalPlane.Routine.raise f : Routine α) := fun _ _ => ⟨rfl,[],by simp,rfl,rfl⟩

theorem quiet_lift (x : Except Fault α) : Quiet (LocalPlane.Routine.lift x : Routine α) := by
  cases x with
  | error f => exact quiet_raise f
  | ok a => exact quiet_pure a

theorem quiet_locals : Quiet LocalPlane.Routine.locals := fun _ _ => ⟨rfl,[],by simp,rfl,rfl⟩

theorem quiet_modify {f : Locals → Locals} (hf : ∀ l, (f l).jobPath = l.jobPath) : Quiet (LocalPlane.Routine.modify f) :=
  fun l _ => ⟨hf l,[],by simp,rfl,rfl⟩

theorem quiet_perform {call : Call} (hcall : ∀ r, Still [⟨call,r⟩]) : Quiet (perform call) :=
  fun _ _ r => ⟨rfl,[⟨call,r⟩],rfl,hcall r⟩

theorem quiet_bind {p : Routine α} {f : α → Routine β} (hp : Quiet p) (hf : ∀ a, Quiet (f a)) : Quiet (p >>= f) := by
  intro l h
  refine wp_bind.mpr (wp_mono (hp l h) fun x l' h' ⟨hj,t,ht,hstill⟩ => ?_)
  cases x with
  | error f => exact ⟨hj,t,ht,hstill⟩
  | ok a =>
    refine wp_mono (hf a l' h') fun y l'' h'' ⟨hj',u,hu,hstill'⟩ => ?_
    exact ⟨hj'.trans hj,t ++ u,by rw [hu,ht,List.append_assoc],hstill.append hstill'⟩

theorem quiet_currentOwner : Quiet currentOwner := by
  refine quiet_bind (quiet_perform fun r => ⟨rfl,rfl⟩) fun r => quiet_bind (quiet_lift r) fun reply => ?_
  split
  · split
    · exact quiet_pure _
    · exact quiet_raise _
  · exact quiet_raise _

theorem quiet_checkOwner (owner : String) : Quiet (checkOwner owner) := by
  refine quiet_bind quiet_currentOwner fun actual => quiet_bind (quiet_perform fun r => ⟨rfl,rfl⟩) fun changed => ?_
  split
  · exact quiet_raise _
  · exact quiet_pure _

theorem quiet_getUnitPath (unitId : String) : Quiet (getUnitPath unitId) := by
  refine quiet_bind (quiet_perform fun r => ⟨rfl,rfl⟩) fun r => ?_
  split
  · exact quiet_pure _
  · exact quiet_raise _
  · split
    · exact quiet_pure _
    · exact quiet_raise _
  · exact quiet_raise _

theorem quiet_unitProperties (path : String) : Quiet (unitProperties path) := by
  refine quiet_bind (quiet_perform fun r => ⟨rfl,rfl⟩) fun r => quiet_bind (quiet_lift r) fun reply => ?_
  split
  · exact quiet_pure _
  · exact quiet_raise _
  · exact quiet_raise _

theorem quiet_awaitRemoved (owner jobPath unitId : String) (n : ℕ) : Quiet (awaitRemoved owner jobPath unitId n) := by
  induction n with
  | zero => exact quiet_pure _
  | succ n ih =>
    refine quiet_bind (quiet_perform fun r => ⟨rfl,?_⟩) fun r => ?_
    · cases r <;> rfl
    · split
      · exact quiet_pure _
      · exact quiet_raise _
      · exact ih
      · split
        · refine quiet_bind (quiet_checkOwner owner) fun _ => ?_
          split
          · exact quiet_raise _
          · exact quiet_pure _
        · exact ih

theorem quiet_resultFor (owner jobPath unitId : String) (timeoutS : ℕ) : Quiet (resultFor owner jobPath unitId timeoutS) :=
  quiet_bind (quiet_perform fun _ => ⟨rfl,rfl⟩) fun n => quiet_awaitRemoved owner jobPath unitId n

end Quiet

section Heard

variable {l : Locals} {h : History} {owner jobPath unitId : String}

theorem currentOwner_reads : currentOwner.wp (fun x _ h' => ∀ owner, x = .ok owner →
    h' = h ++ [⟨.nameOwner,.ok [.str owner]⟩]) l h := by
  refine wp_ask.mpr fun r => wp_bind.mpr (wp_lift.mpr ?_)
  rcases r with f | reply
  · exact fun owner hx => (nomatch hx)
  · dsimp only
    split
    · split
      · exact fun owner hx => by cases hx; rfl
      · exact fun owner hx => (nomatch hx)
    · exact fun owner hx => (nomatch hx)

/-- The check passes only on the same owner and an empty queue. -/
theorem checkOwner_reads : (checkOwner owner).wp (fun x _ h' => x = .ok () →
    h' = h ++ [⟨.nameOwner,.ok [.str owner]⟩,⟨.ownerChanges,false⟩]) l h := by
  refine wp_bind.mpr (wp_mono currentOwner_reads fun x l' h' hx => ?_)
  cases x with
  | error f => exact fun hx => (nomatch hx)
  | ok actual =>
    obtain rfl := hx actual rfl
    refine wp_ask.mpr fun changed => ?_
    split
    · exact fun hx => (nomatch hx)
    · next hc =>
      obtain ⟨hchanged,hsame⟩ := not_or.mp hc
      obtain rfl := not_not.mp hsame
      intro _
      rw [Bool.eq_false_iff.mpr hchanged]
      simp

/-- A completion is taken from a signal that names the job and the unit, and then the owner is looked up again. -/
theorem awaitRemoved_hears (n : ℕ) : (awaitRemoved owner jobPath unitId n).wp (fun x _ h' => ∀ c, x = .ok (some c) →
    ∃ between jobId, h' = h ++ (between ++ ⟨.receive,.ok (some ⟨jobId,jobPath,unitId,c.2⟩)⟩ ::
      ⟨.nameOwner,.ok [.str owner]⟩ :: [⟨.ownerChanges,false⟩])) l h := by
  induction n generalizing h with
  | zero => exact fun c hc => (nomatch hc)
  | succ n ih =>
    have hskip : ∀ e : Exchange Bus, (awaitRemoved owner jobPath unitId n).wp (fun x _ h' => ∀ c, x = .ok (some c) →
        ∃ between jobId, h' = h ++ (between ++ ⟨.receive,.ok (some ⟨jobId,jobPath,unitId,c.2⟩)⟩ ::
          ⟨.nameOwner,.ok [.str owner]⟩ :: [⟨.ownerChanges,false⟩])) l (h ++ [e]) := fun e =>
      wp_mono ih fun x l' h' hx c hc => by
        obtain ⟨between,jobId,rfl⟩ := hx c hc
        exact ⟨e :: between,jobId,by simp⟩
    refine wp_ask.mpr fun r => ?_
    split
    · exact fun c hc => (nomatch hc)
    · exact fun c hc => (nomatch hc)
    · exact hskip _
    · next message =>
      split
      · next hm =>
        obtain ⟨rfl,rfl⟩ := hm
        refine wp_bind.mpr (wp_mono checkOwner_reads fun x l' h' hx => ?_)
        cases x with
        | error f => exact fun c hc => (nomatch hc)
        | ok _ =>
          obtain rfl := hx rfl
          dsimp only
          split
          · exact fun c hc => (nomatch hc)
          · next jobId hj =>
            intro c hc
            cases hc
            exact ⟨[],message.jobId,by simp⟩
      · exact hskip _

theorem resultFor_hears {timeoutS : ℕ} : (resultFor owner jobPath unitId timeoutS).wp (fun x _ h' => ∀ c, x = .ok (some c) →
    ∃ between jobId, h' = h ++ (between ++ ⟨.receive,.ok (some ⟨jobId,jobPath,unitId,c.2⟩)⟩ ::
      ⟨.nameOwner,.ok [.str owner]⟩ :: [⟨.ownerChanges,false⟩])) l h := by
  refine wp_ask.mpr fun n => wp_mono (awaitRemoved_hears n) fun x l' h' hx c hc => ?_
  obtain ⟨between,jobId,rfl⟩ := hx c hc
  exact ⟨⟨.patience timeoutS,n⟩ :: between,jobId,by simp⟩

end Heard

section Standing

open LocalPlane.Routine (within handle)

variable {α : Type} {unitId action member owner : String} {x : Except Fault Leaving} {l : Locals} {h t : History} {e : Exchange Bus}

/-- The call came back with neither a refusal nor a job. -/
def Unsure (a : CallAnswer) : Prop := (∀ name, a ≠ .refused name) ∧ ∀ path rest, a ≠ .replied (path :: rest)

/-- What the way out of the scopes says of the history it comes from. -/
inductive Standing (unitId : String) (x : Except Fault Leaving) (l : Locals) (h : History) : Prop
  | unasked (ha : asked h = []) (hj : l.jobPath = none)
      (hx : ∀ leaving, x = .ok leaving → ∃ r, leaving = .early r ∧ r.outcome = .notWritten)
  | refused (name : String) (ha : asked h = [.refused name]) (hj : l.jobPath = none)
      (hx : ∀ leaving, x = .ok leaving → ∃ r, leaving = .early r ∧ r.outcome = .notWritten)
  | unsure (a : CallAnswer) (ha : asked h = [a]) (hu : Unsure a) (hj : l.jobPath = none)
      (hx : ∀ leaving, x = .ok leaving → h.any badExit = false ∧ ∃ r, leaving = .early r ∧ r.outcome = .writeUnknown)
      (hf : ∀ f, x = .error f → h.any badExit = true)
  | enqueued (path : String) (rest : List String) (ha : asked h = [.replied (path :: rest)]) (hj : l.jobPath = some path)
      (hx : ∀ leaving, x = .ok leaving → leaving = .heard none ∨ ∃ c, leaving = .heard (some c) ∧ Heard h unitId path c.2)

theorem Heard.append {path result : String} (hh : Heard h unitId path result) (t : History) : Heard (h ++ t) unitId path result := by
  obtain ⟨before,calling,between,after,jobId,owner,objectPath,member,rest,rfl,rfl,hbefore⟩ := hh
  exact ⟨before,_,between,after ++ t,jobId,owner,objectPath,member,rest,by simp,rfl,hbefore⟩

/-- A scope left well changes nothing, and one left badly turns every way out into an exception. -/
theorem Standing.leave {y : Except Fault Unit} (hs : Standing unitId x l h) (ha : asked [e] = [])
    (hy : badExit e = true ↔ ∃ f, y = .error f) :
    Standing unitId (match y with | .ok _ => x | .error f => .error f) l (h ++ [e]) := by
  have hasked : asked (h ++ [e]) = asked h := by rw [asked_append,ha,List.append_nil]
  have hbad : ∀ f, y = .error f → (h ++ [e]).any badExit = true := fun f hf => by
    simp [hy.mpr ⟨f,hf⟩]
  have hgood : ∀ u, y = .ok u → (h ++ [e]).any badExit = h.any badExit := fun u hu => by
    have hno : badExit e = false := Bool.eq_false_iff.mpr fun ht => by
      obtain ⟨f,hf⟩ := hy.mp ht
      cases hu.symm.trans hf
    simp [hno]
  cases hs with
  | unasked ha hj hx =>
    refine .unasked (hasked.trans ha) hj ?_
    cases y with
    | error f => exact fun _ hl => (nomatch hl)
    | ok u => exact hx
  | refused name ha hj hx =>
    refine .refused name (hasked.trans ha) hj ?_
    cases y with
    | error f => exact fun _ hl => (nomatch hl)
    | ok u => exact hx
  | unsure a ha hu hj hx hf =>
    refine .unsure a (hasked.trans ha) hu hj ?_ ?_
    · cases y with
      | error f => exact fun _ hl => (nomatch hl)
      | ok u =>
        rw [hgood u rfl]
        exact hx
    · cases y with
      | error f => exact fun _ _ => hbad f rfl
      | ok u =>
        rw [hgood u rfl]
        exact hf
  | enqueued path rest ha hj hx =>
    refine .enqueued path rest (hasked.trans ha) hj ?_
    cases y with
    | error f => exact fun _ hl => (nomatch hl)
    | ok u => exact fun leaving hl => (hx leaving hl).imp id fun ⟨c,hc,hh⟩ => ⟨c,hc,hh.append _⟩

/-- Leaving one scope. -/
def Leaves (leave : Routine Unit) : Prop := ∀ l h, leave.wp (fun y l' h' => l' = l ∧ ∃ e, h' = h ++ [e] ∧ asked [e] = [] ∧
  (badExit e = true ↔ ∃ f, y = .error f)) l h

theorem within_standing {leave : Routine Unit} {body : Routine Leaving} (hleave : Leaves leave)
    (hbody : body.wp (Standing unitId) l h) : (within leave body).wp (Standing unitId) l h := by
  refine wp_within.mpr (wp_mono hbody fun x l' h' hs => ?_)
  refine wp_mono (hleave l' h') fun y l'' h'' ⟨hl,e,he,ha,hy⟩ => ?_
  subst hl he
  have hstill := hs.leave ha hy
  cases y with
  | ok u => exact hstill
  | error f => exact hstill

theorem leaves_of (call : Call) (leave : Routine Unit) (answer : Bus.Ret call → Except Fault Unit)
    (hleave : leave = perform call >>= fun r => LocalPlane.Routine.lift (answer r)) (ha : ∀ r, asked [⟨call,r⟩] = [])
    (hbad : ∀ r, badExit ⟨call,r⟩ = true ↔ ∃ f, answer r = .error f) : Leaves leave := by
  subst hleave
  intro l h
  exact wp_ask.mpr fun r => wp_lift.mpr ⟨rfl,_,rfl,ha r,hbad r⟩

theorem failing {bad : Except Fault Unit → Bool} (herror : ∀ f, bad (.error f) = true) (hok : bad (.ok ()) = false)
    (r : Except Fault Unit) : bad r = true ↔ ∃ f, r = .error f := by
  cases r with
  | error f => exact iff_of_true (herror f) ⟨f,rfl⟩
  | ok u => exact iff_of_false (by simp [hok]) fun ⟨f,hf⟩ => (nomatch hf)

theorem leaves_unfilterJobs : Leaves (do LocalPlane.Routine.lift (← perform .unfilterJobs)) :=
  leaves_of .unfilterJobs _ id rfl (fun _ => rfl) (failing (fun _ => rfl) rfl)

theorem leaves_unfilterOwner : Leaves (do LocalPlane.Routine.lift (← perform .unfilterOwner)) :=
  leaves_of .unfilterOwner _ id rfl (fun _ => rfl) (failing (fun _ => rfl) rfl)

theorem leaves_closeConnection : Leaves closeConnection :=
  leaves_of .close _ id rfl (fun _ => rfl) (failing (fun _ => rfl) rfl)

/-- Nothing has been asked yet. -/
structure Clear (l : Locals) (h : History) : Prop where
  jobPath : l.jobPath = none
  still : Still h

theorem Clear.append (hc : Clear l h) (ht : Still t) : Clear l (h ++ t) := ⟨hc.jobPath,hc.still.append ht⟩

theorem Clear.raised (hc : Clear l h) (f : Fault) : Standing unitId (.error f) l h :=
  .unasked hc.still.1 hc.jobPath fun _ hl => (nomatch hl)

theorem Clear.early {r : LifecycleDispatchResult} (hc : Clear l h) (hr : r.outcome = .notWritten) :
    Standing unitId (.ok (.early r)) l h :=
  .unasked hc.still.1 hc.jobPath fun _ hl => by cases hl; exact ⟨r,rfl,hr⟩

theorem Clear.asked_call (hc : Clear l h) {path mode : String} {a : CallAnswer} :
    asked (h ++ [⟨.lifecycle path member mode,a⟩]) = [a] := by
  rw [asked_append,hc.still.1]
  rfl

theorem Clear.exits_call (hc : Clear l h) {path mode : String} {a : CallAnswer} :
    (h ++ [(⟨.lifecycle path member mode,a⟩ : Exchange Bus)]).any badExit = false := by
  rw [List.any_append,hc.still.2]
  rfl

/-- A quiet routine before the call: what follows starts as clear as it did, with what the routine says of its answer. -/
theorem Clear.bind {p : Routine α} {f : α → Routine Leaving} {P : α → History → Prop} (hc : Clear l h) (hp : Quiet p)
    (hP : p.wp (fun x _ h' => ∀ a, x = .ok a → P a h') l h)
    (hf : ∀ a l' t, Clear l' (h ++ t) → P a (h ++ t) → (f a).wp (Standing unitId) l' (h ++ t)) :
    (p >>= f).wp (Standing unitId) l h := by
  refine wp_bind.mpr (wp_mono (wp_and (hp l h) hP)
    fun x l' _ ⟨⟨hj,t,ht,hstill⟩,hx⟩ => ?_)
  subst ht
  have hclear : Clear l' (h ++ t) := ⟨hj.trans hc.jobPath,hc.still.append hstill⟩
  cases x with
  | error f => exact hclear.raised f
  | ok a => exact hf a l' t hclear (hx a rfl)

theorem Clear.andThen {p : Routine α} {f : α → Routine Leaving} (hc : Clear l h) (hp : Quiet p)
    (hf : ∀ a l' t, Clear l' (h ++ t) → (f a).wp (Standing unitId) l' (h ++ t)) : (p >>= f).wp (Standing unitId) l h :=
  hc.bind (P:=fun _ _ => True) hp (wp_mono (hp l h) fun _ _ _ _ _ _ => trivial)
    fun a l' t hclear _ => hf a l' t hclear

/-- What was asked of the manager, and what the answer settles. -/
theorem unitLifecycle_asks {path : String} {f : Except Fault String → Routine Leaving}
    (hrefused : ∀ name, (f (.error (.response name))).wp (Standing unitId) l
      (h ++ [⟨.lifecycle path member systemdDispatchMode,.refused name⟩]))
    (hunsure : ∀ a failure, Unsure a → (f (.error (.failure failure))).wp (Standing unitId) l
      (h ++ [⟨.lifecycle path member systemdDispatchMode,a⟩]))
    (henqueued : ∀ job rest, (f (.ok job)).wp (Standing unitId) l
      (h ++ [⟨.lifecycle path member systemdDispatchMode,.replied (job :: rest)⟩])) :
    (unitLifecycle path member >>= f).wp (Standing unitId) l h := by
  refine wp_bind.mpr (wp_ask.mpr fun a => ?_)
  split
  · exact hunsure _ _ ⟨fun _ h => (nomatch h),fun _ _ h => (nomatch h)⟩
  · exact hunsure _ _ ⟨fun _ h => (nomatch h),fun _ _ h => (nomatch h)⟩
  · exact hrefused _
  · exact hunsure _ _ ⟨fun _ h => (nomatch h),fun _ _ h => (nomatch h)⟩
  · exact henqueued _ _

/-- A job was enqueued, and what comes of it is listened for. -/
theorem heard_standing {objectPath job : String} {rest : List String} (hc : Clear l h)
    (howner : (⟨.nameOwner,.ok [.str owner]⟩ : Exchange Bus) ∈ h) :
    (do LocalPlane.Routine.modify fun l => {l with jobPath := some job}
        let c ← resultFor owner job unitId jobCompletionTimeoutS
        return Leaving.heard c : Routine Leaving).wp (Standing unitId) l
      (h ++ [⟨.lifecycle objectPath member systemdDispatchMode,.replied (job :: rest)⟩]) := by
  refine wp_bind.mpr (wp_modify.mpr (wp_bind.mpr ?_))
  refine wp_mono (wp_and (quiet_resultFor owner job unitId _ _ _) resultFor_hears)
    fun x l' h' hspec => ?_
  obtain ⟨⟨hj,tail,rfl,hstill⟩,hx⟩ := hspec
  have hasked : asked (h ++ [⟨.lifecycle objectPath member systemdDispatchMode,.replied (job :: rest)⟩] ++ tail) =
      [.replied (job :: rest)] := by
    rw [asked_append,hc.asked_call,hstill.1,List.append_nil]
  cases x with
  | error f => exact .enqueued job rest hasked hj fun _ hl => (nomatch hl)
  | ok c =>
    refine .enqueued job rest hasked hj fun leaving hl => ?_
    cases hl
    cases c with
    | none => exact .inl rfl
    | some c =>
      obtain ⟨between,jobId,heq⟩ := hx c rfl
      refine .inr ⟨c,rfl,h,_,between,[],jobId,owner,objectPath,member,rest,?_,rfl,howner⟩
      rw [heq]
      simp

theorem dispatchWithin_standing (hc : Clear l h) (howner : (⟨.nameOwner,.ok [.str owner]⟩ : Exchange Bus) ∈ h) :
    (dispatchWithin unitId action member owner).wp (Standing unitId) l h := by
  refine hc.andThen (quiet_getUnitPath unitId) fun found l t hc => ?_
  cases found with
  | none => exact hc.andThen quiet_locals fun l' _ _ hc => hc.early rfl
  | some objectPath =>
    refine hc.andThen (quiet_unitProperties objectPath) fun properties l u hc => ?_
    refine hc.andThen (quiet_modify fun _ => rfl) fun _ l v hc => ?_
    dsimp only
    split
    · exact hc.andThen quiet_locals fun l' _ _ hc => hc.early rfl
    · refine hc.andThen (quiet_modify fun _ => rfl) fun _ l w hc => ?_
      refine hc.andThen (quiet_checkOwner owner) fun _ l w' hc => ?_
      refine hc.andThen quiet_locals fun now l w'' hc => ?_
      refine unitLifecycle_asks (fun name => ?_) (fun a failure hu => ?_) fun job rest => ?_
      · exact .refused name hc.asked_call hc.jobPath fun _ hl => by cases hl; exact ⟨_,rfl,rfl⟩
      · exact .unsure a hc.asked_call hu hc.jobPath (fun _ hl => by cases hl; exact ⟨hc.exits_call,_,rfl,rfl⟩)
          fun _ hl => (nomatch hl)
      · exact heard_standing hc (by simp [howner])

theorem jobWatch_standing (hc : Clear l h) :
    (jobWatch (dispatchWithin unitId action member)).wp (Standing unitId) l h := by
  refine hc.andThen (quiet_perform fun r => ⟨rfl,?_⟩) fun r l t hc => ?_
  · cases r <;> rfl
  refine hc.andThen (quiet_lift r) fun _ l u hc => within_standing leaves_unfilterOwner ?_
  refine hc.andThen (quiet_perform fun r => ⟨rfl,?_⟩) fun r l v hc => ?_
  · cases r <;> rfl
  refine hc.andThen (quiet_lift r) fun _ l w hc => ?_
  refine hc.bind (P:=fun owner h' => (⟨.nameOwner,.ok [.str owner]⟩ : Exchange Bus) ∈ h') quiet_currentOwner
    (wp_mono currentOwner_reads fun x l' h' hx owner ho => by rw [hx owner ho]; simp)
    fun owner l t' hc howner => ?_
  refine hc.andThen (quiet_perform fun r => ⟨rfl,?_⟩) fun r l u' hc => ?_
  · cases r <;> rfl
  refine hc.andThen (quiet_lift r) fun _ l v' hc => within_standing leaves_unfilterJobs ?_
  refine hc.andThen (quiet_perform fun r => ⟨rfl,?_⟩) fun r l w' hc => ?_
  · cases r <;> rfl
  refine hc.andThen (quiet_lift r) fun _ l t'' hc => dispatchWithin_standing hc ?_
  simp only [List.append_assoc] at howner
  simp only [List.mem_append] at howner ⊢
  tauto

end Standing

section Outcome

variable {unitId action member : String} {l : Locals} {h : History} {f : Fault} {leaving : Leaving} {a : CallAnswer}

theorem Unsure.unanswered (hu : Unsure a) : Unanswered a ↔ ¬∃ f, a = .unsent f := by
  cases a with
  | unsent f => exact iff_of_false id fun h => h ⟨f,rfl⟩
  | lost f => exact iff_of_true trivial fun ⟨_,h⟩ => (nomatch h)
  | refused name => exact absurd rfl (hu.1 name)
  | replied body =>
    cases body with
    | nil => exact iff_of_true trivial fun ⟨_,h⟩ => (nomatch h)
    | cons path rest => exact absurd rfl (hu.2 path rest)

theorem not_slipped (ha : ∀ a ∈ asked h, ¬Unanswered a) : ¬Slipped h := fun hs => by
  obtain ⟨⟨a,hmem,hu⟩,-⟩ := hs
  exact ha a hmem hu

theorem truthful_of {r : LifecycleDispatchResult} (hone : (asked h).length ≤ 1)
    (hno : r.outcome = .notWritten → ∀ a ∈ asked h, (∃ f, a = .unsent f) ∨ ∃ name, a = .refused name)
    (hw : r.outcome ≠ .written) : Truthful h unitId r := ⟨hone,hno,fun hr => absurd hr hw⟩

/-- The scopes were left without an exception: the report is what was decided within them. -/
theorem conclude_truthful (action : String) (hs : Standing unitId (.ok leaving) l h) :
    Truthful h unitId (conclude unitId action l leaving) ∧ ¬Slipped h := by
  cases hs with
  | unasked ha hj hx =>
    obtain ⟨r,rfl,hr⟩ := hx _ rfl
    exact ⟨truthful_of (by simp [ha]) (by simp [ha]) (by simp [conclude,hr]),not_slipped (by simp [ha])⟩
  | refused name ha hj hx =>
    obtain ⟨r,rfl,hr⟩ := hx _ rfl
    exact ⟨truthful_of (by simp [ha]) (by simp [ha]) (by simp [conclude,hr]),not_slipped (by simp [ha,Unanswered])⟩
  | unsure a ha hu hj hx hf =>
    obtain ⟨hbad,r,rfl,hr⟩ := hx _ rfl
    refine ⟨truthful_of (by simp [ha]) (by simp [conclude,hr]) (by simp [conclude,hr]),fun hs => ?_⟩
    exact Bool.false_ne_true (hbad.symm.trans hs.2)
  | enqueued path rest ha hj hx =>
    refine ⟨?_,not_slipped (by simp [ha,Unanswered])⟩
    rcases hx _ rfl with rfl | ⟨c,rfl,hh⟩
    · exact truthful_of (by simp [ha]) (by simp [conclude,writeUnknown]) (by simp [conclude,writeUnknown])
    · by_cases hdone : c.2 = jobResultDone
      · refine ⟨by simp [ha],fun hr => ?_,fun _ => ⟨path,hdone ▸ hh⟩⟩
        simp [conclude,hdone] at hr
      · exact truthful_of (by simp [ha]) (by simp [conclude,hdone]) (by simp [conclude,hdone])

/-- An exception came out of the scopes: without a job path it is read as a proof that nothing was asked. -/
theorem afterFault_truthful (action : String) (hs : Standing unitId (.error f) l h) :
    (afterFault unitId action f).wp (fun x l' h' => h' = h ∧ ∃ leaving, x = .ok leaving ∧
      (Truthful h unitId (conclude unitId action l' leaving) ↔ ¬Slipped h)) l h := by
  refine wp_bind.mpr (wp_locals.mpr ?_)
  cases hs with
  | unasked ha hj hx =>
    simp only [hj,Option.isSome_none]
    exact ⟨rfl,_,rfl,iff_of_true (truthful_of (by simp [ha]) (by simp [ha]) (by simp [conclude,notDispatched]))
      (not_slipped (by simp [ha]))⟩
  | refused name ha hj hx =>
    simp only [hj,Option.isSome_none]
    exact ⟨rfl,_,rfl,iff_of_true (truthful_of (by simp [ha]) (by simp [ha]) (by simp [conclude,notDispatched]))
      (not_slipped (by simp [ha,Unanswered]))⟩
  | unsure a ha hu hj hx hf =>
    simp only [hj,Option.isSome_none]
    refine ⟨rfl,_,rfl,?_⟩
    have hslipped : Slipped h ↔ Unanswered a := by simp [Slipped,ha,hf f rfl]
    rw [hslipped,hu.unanswered,not_not]
    constructor
    · intro ht
      refine (ht.notWritten rfl a (by simp [ha])).resolve_right ?_
      rintro ⟨name,rfl⟩
      exact hu.1 name rfl
    · intro hunsent
      exact truthful_of (by simp [ha]) (by simp [ha,hunsent]) (by simp [conclude,notDispatched])
  | enqueued path rest ha hj hx =>
    simp only [hj,Option.isSome_some]
    exact ⟨rfl,_,rfl,iff_of_true (truthful_of (by simp [ha]) (by simp [conclude,writeUnknown]) (by simp [conclude,writeUnknown]))
      (not_slipped (by simp [ha,Unanswered]))⟩

theorem overBus_truthful (hc : Clear l h) : (dispatchOverBus unitId action member).wp
    (fun x _ h' => ∃ r, x = .ok r ∧ (Truthful h' unitId r ↔ ¬Slipped h')) l h := by
  have hscopes : (do openConnection
                     LocalPlane.Routine.within closeConnection do
                       subscribe
                       jobWatch (dispatchWithin unitId action member) : Routine Leaving).wp (Standing unitId) l h := by
    refine hc.andThen (quiet_bind (quiet_perform fun r => ⟨rfl,?_⟩) quiet_lift) fun _ l t hc =>
      within_standing leaves_closeConnection ?_
    · cases r <;> rfl
    · refine hc.andThen (quiet_bind (quiet_perform fun r => ⟨rfl,?_⟩) quiet_lift) fun _ l u hc => jobWatch_standing hc
      cases r <;> rfl
  refine wp_bind.mpr (wp_handle.mpr (wp_mono hscopes fun x l' h' hs => ?_))
  cases x with
  | ok leaving =>
    obtain ⟨ht,hn⟩ := conclude_truthful action hs
    exact ⟨_,rfl,iff_of_true ht hn⟩
  | error f =>
    refine wp_mono (afterFault_truthful action hs) fun y l'' h'' ⟨hh,leaving,hy,ht⟩ => ?_
    subst hh hy
    exact ⟨_,rfl,ht⟩

/-- The report is truthful in every run but those in which an unanswered call was followed by a scope that could
not be left, and nothing is ever raised. -/
theorem dispatch_truthful (p : SystemdProvider) (unitId action : String) (h : History)
    (x : Except (Fault × Locals) (LifecycleDispatchResult × Locals))
    (hr : (dispatchServiceLifecycle p unitId action (initialLocals p action)).Runs h x) :
    ∃ r l, x = .ok (r,l) ∧ (Truthful h unitId r ↔ ¬Slipped h) := by
  have hquiet : ∀ (l : Locals) (h : History) (r : LifecycleDispatchResult), asked h = [] → r.outcome = .notWritten →
      (Pure.pure r : Routine LifecycleDispatchResult).wp
        (fun x _ h' => ∃ r, x = .ok r ∧ (Truthful h' unitId r ↔ ¬Slipped h')) l h := fun l h r ha hr =>
    ⟨r,rfl,iff_of_true (truthful_of (by simp [ha]) (by simp [ha]) (by simp [hr])) (not_slipped (by simp [ha]))⟩
  have hclear : Clear (initialLocals p action) [] := ⟨rfl,rfl,rfl⟩
  have hwp : (dispatchServiceLifecycle p unitId action).wp
      (fun x _ h' => ∃ r, x = .ok r ∧ (Truthful h' unitId r ↔ ¬Slipped h')) (initialLocals p action) [] := by
    unfold dispatchServiceLifecycle
    dsimp only
    split
    · exact hquiet _ _ _ rfl rfl
    · split
      · exact hquiet _ _ _ rfl rfl
      · refine wp_bind.mpr ?_
        unfold environmentUnavailable
        split
        · exact overBus_truthful hclear
        · refine wp_ask.mpr fun there => ?_
          split
          · exact overBus_truthful (hclear.append (t:=[⟨.runtimePathExists _,there⟩]) ⟨rfl,rfl⟩)
          · exact hquiet (initialLocals p action) [⟨.runtimePathExists _,there⟩] _ rfl rfl
  have hpost := Program.wp_iff.mp hwp h x hr
  rw [List.nil_append] at hpost
  rcases x with ⟨f,l⟩ | ⟨r,l⟩
  · obtain ⟨r,hx,-⟩ := hpost
    cases hx
  · obtain ⟨r',hx,ht⟩ := hpost
    cases hx
    exact ⟨r,l,rfl,ht⟩

end Outcome

section Histories

/-- A manager with one loaded service, and what becomes of a restart of it and of closing the connection. -/
def party (answer : CallAnswer) (closing : Except Fault Unit) : (call : Call) → Bus.Ret call
  | .runtimePathExists _ => true
  | .openConnection => .ok ()
  | .subscribe => .ok ()
  | .filterOwner => .ok ()
  | .matchOwner => .ok ()
  | .nameOwner => .ok [.str ":1.1"]
  | .ownerChanges => false
  | .filterJobs => .ok ()
  | .matchJobs => .ok ()
  | .getUnit _ => .ok ["/unit/1"]
  | .unitProperties _ => .ok [.obj [("Id",.str "nginx.service"),("LoadState",.str "loaded"),("ActiveState",.str "active")]]
  | .lifecycle _ _ _ => answer
  | .patience _ => (1 : ℕ)
  | .receive => .ok (some ⟨some 7,"/job/7","nginx.service","done"⟩)
  | .unfilterJobs => .ok ()
  | .unfilterOwner => .ok ()
  | .close => closing

def provider : SystemdProvider := ⟨some "/run/systemd/system","2026-01-01T00:00:00Z",id⟩

/-- Restarting one service against such a manager. -/
def restartRun (answer : CallAnswer) (closing : Except Fault Unit) : History × Except (Fault × Locals) (LifecycleDispatchResult × Locals) :=
  (dispatchServiceLifecycle provider "nginx.service" "restart" (initialLocals provider "restart")).against (party answer closing)

def outcomeOf : Except (Fault × Locals) (LifecycleDispatchResult × Locals) → Option MutationOutcome
  | .ok (r,_) => some r.outcome
  | .error _ => none

theorem outcomeOf_some {x : Except (Fault × Locals) (LifecycleDispatchResult × Locals)} {outcome : MutationOutcome}
    (h : outcomeOf x = some outcome) : ∃ r l, x = .ok (r,l) ∧ r.outcome = outcome := by
  rcases x with _ | ⟨r,l⟩
  · cases h
  · exact ⟨r,l,rfl,Option.some.inj h⟩

/-- A restart that completed is reported as written. -/
theorem truthful_of_done : ∃ r l, (restartRun (.replied ["/job/7"]) (.ok ())).2 = .ok (r,l) ∧ r.outcome = .written ∧
    Truthful (restartRun (.replied ["/job/7"]) (.ok ())).1 "nginx.service" r := by
  obtain ⟨r,l,hx,ht⟩ := dispatch_truthful provider "nginx.service" "restart" _ _
    (Program.runs_against (party (.replied ["/job/7"]) (.ok ())) _)
  have houtcome : outcomeOf (restartRun (.replied ["/job/7"]) (.ok ())).2 = some .written := by decide +kernel
  have hexits : (restartRun (.replied ["/job/7"]) (.ok ())).1.any badExit = false := by decide +kernel
  obtain ⟨r',l',hx',hr'⟩ := outcomeOf_some houtcome
  cases hx.symm.trans hx'
  exact ⟨r,l,hx,hr',ht.mpr fun hs => Bool.false_ne_true (hexits.symm.trans hs.2)⟩

/-- The call is lost, the connection cannot be closed, and the report is a proof that nothing was asked. -/
theorem lost_and_not_written : ¬∀ (p : SystemdProvider) (unitId action : String) (h : History)
    (x : Except (Fault × Locals) (LifecycleDispatchResult × Locals)),
    (dispatchServiceLifecycle p unitId action (initialLocals p action)).Runs h x →
      ∃ r l, x = .ok (r,l) ∧ Truthful h unitId r := by
  intro hall
  let failing : Except Fault Unit := .error (.failure (.os "OSError" (.num 9)))
  obtain ⟨r,l,hx,ht⟩ := hall provider "nginx.service" "restart" _ _
    (Program.runs_against (party (.lost .timeout) failing) _)
  have houtcome : outcomeOf (restartRun (.lost .timeout) failing).2 = some .notWritten := by decide +kernel
  have hasked : asked (restartRun (.lost .timeout) failing).1 = [.lost .timeout] := by rfl
  obtain ⟨r',l',hx',hr'⟩ := outcomeOf_some houtcome
  cases hx.symm.trans hx'
  have hmem : CallAnswer.lost .timeout ∈ asked (restartRun (.lost .timeout) failing).1 := by
    rw [hasked]
    exact List.mem_singleton.mpr rfl
  rcases ht.notWritten hr' (.lost .timeout) hmem with ⟨f,hf⟩ | ⟨name,hn⟩
  · cases hf
  · cases hn

end Histories

end Dispatched
end LocalPlane
