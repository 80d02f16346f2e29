import LocalPlane.JournalSound

/-!
# The journal's contract

A read ends in an answer that is accepted and tells the newest entries of the window, or it
raises what has a status. The collection around it only ever answers what is accepted. A
message is a start of the original's text, unless the reader cut it inside a character and
the replacement that stands for the rest is displayed.
-/

set_option linter.dupNamespace false

namespace LocalPlane
namespace ServiceJournal
open LineProtocol (Json)
open CivilTime

/-- The names that a journal is read for. -/
abbrev Service := {unit : Text // validService unit = true}

abbrev BootId := {boot : Text // id128 boot = true}

section Contract

variable (unit : Service) (boot : BootId) (journal : Journal) (now : Reading) (accessOmitted : Bool)

def inWindow (now : Reading) (r : Record) : Bool :=
  match r.time with
  | .ok t => now.since.micros ≤ t.micros && t.micros ≤ now.instant.micros
  | .error _ => false

/-- The message is not displayed in full. -/
def LeftOut (told : Record × Entry) : Prop := told.2.message ≠ (told.1.value .message).map Utf8.decodeReplace

/-- The entries are the newest ones in the window, up to the two ceilings, and the answer is marked
where that leaves something out. -/
structure Newest (a : Answer) (shown more : List Record) : Prop where
  window : journal.records.filter (inWindow now) = shown ++ more
  told : List.Forall₂ (Tells unit boot) shown a.entries
  count : a.entries.length ≤ maxEntries
  ceiling : more = [] ∨ a.entries.length = maxEntries ∨ ∃ next rest e truncated, more = next :: rest ∧ Tells unit boot next e ∧
    (truncated = true ↔ ∃ told ∈ (shown ++ [next]).zip (a.entries ++ [e]), LeftOut told) ∧
    outputBytes - 1 < (encode { a with entries := a.entries ++ [e], truncated := truncated }.toJson).length
  truncated : a.truncated = true ↔ more ≠ [] ∨ ∃ told ∈ shown.zip a.entries, LeftOut told

/-- Each message is UTF-8 within the ceiling and a start of the original's text. -/
def Messages (a : Answer) (shown : List Record) : Prop :=
  ∀ told ∈ shown.zip a.entries, ∀ text ∈ told.2.message, Utf8.size text ≤ messageBytes ∧
    ∃ original, told.1.value .message = some original ∧ text <+: Utf8.decodeReplace original

/-- What the collection has a status for. -/
def Expected (e : Raised) : Prop := (∃ failure, e = failed failure) ∨ e = .value

def Contract : Prop :=
  match collectEntries unit boot journal now accessOmitted with
  | .ok a => validate a.toJson unit = true ∧ ∃ shown more, Newest unit boot journal now a shown more ∧ Messages a shown
  | .error e => Expected e

/-- No message that the ceilings leave is cut behind the third byte of a four-byte character, with all of
its text before that as long as its bytes. -/
def NoneSplit : Prop :=
  journal.select = .ok () → ∀ shown rest es cut, Leaves unit boot now accessOmitted journal.ending journal.records [] shown rest es cut →
    ∀ r ∈ shown, ∀ original, r.value .message = some original → ¬Utf8.SplitCharacter messageBytes original

end Contract

section Expected

variable {α β : Type}

/-- Nothing else is raised. -/
def Tame (x : Except Raised α) : Prop := ∀ e, x = .error e → Expected e

theorem Tame.ok (a : α) : Tame (.ok a : Except Raised α) := by
  rintro e ⟨⟩

theorem Tame.failed (failure : Failure) : Tame (.error (ServiceJournal.failed failure) : Except Raised α) := by
  rintro e ⟨⟩
  exact .inl ⟨failure,rfl⟩

theorem Tame.value : Tame (.error .value : Except Raised α) := by
  rintro e ⟨⟩
  exact .inr rfl

theorem Tame.bind {x : Except Raised α} {f : α → Except Raised β} (hx : Tame x) (hf : ∀ a, Tame (f a)) : Tame (x >>= f) := by
  cases x with
  | error e => exact fun e' h => hx e' (by simpa [error_bind] using h)
  | ok a => exact hf a

theorem Tame.ite {c : Prop} [Decidable c] {x y : Except Raised α} (hx : Tame x) (hy : Tame y) : Tame (if c then x else y) := by
  split
  · exact hx
  · exact hy

theorem tame_checked (x : Except Errno α) : Tame (checked x) := by
  cases x with
  | error code => exact .failed _
  | ok a => exact .ok a

theorem tame_field (r : Record) (name : FieldName) (limit : ℕ) (optional : Bool) : Tame (r.field name limit optional) := by
  rw [Record.field]
  split
  · exact .ite (.ok _) (.failed _)
  · exact .ite (.failed _) (.ite (.ok _) (.failed _))

theorem tame_timestamp (r : Record) : Tame r.timestamp := by
  rw [Record.timestamp]
  cases r.time with
  | ok t => exact .ok t
  | error undated =>
    cases undated with
    | native code => exact .failed _
    | range => exact .value

theorem tame_identify (unit boot : Text) (r : Record) : Tame (identify unit boot r) := by
  rw [identify]
  exact .bind (tame_field _ _ _ _) fun _ => .bind (tame_field _ _ _ _) fun _ => .ite (.failed _) (.ok _)

theorem tame_takePriority (p : Option Bytes × Bool) : Tame (takePriority p) := by
  obtain ⟨value,cut⟩ := p
  cases value with
  | none => exact .ite (.failed _) (.ok _)
  | some bytes => exact .ite (.failed _) (.ok _)

theorem tame_takeInvocation (p : Option Bytes × Bool) : Tame (takeInvocation p) := by
  obtain ⟨value,cut⟩ := p
  cases value with
  | none => exact .ite (.failed _) (.ok _)
  | some bytes => exact .ite (.failed _) (.bind (.ite (.ok _) .value) fun text => .ite (.ok _) (.failed _))

theorem tame_readEntry (boot : Text) (t : CivilTime.Instant) (r : Record) : Tame (readEntry boot t r) := by
  rw [readEntry]
  refine .bind (tame_field _ _ _ _) fun priority => .bind (tame_field _ _ _ _) fun invocation => ?_
  exact .bind (tame_takePriority _) fun _ => .bind (tame_takeInvocation _) fun _ => .bind (tame_field _ _ _ _) fun _ => .ok _

theorem tame_readEntries (unit boot : Text) (since : ℤ) (now : CivilTime.Instant) (ending : Except Errno Unit) (records : List Record) (a : Answer) :
    Tame (readEntries unit boot since now ending records a) := by
  induction records generalizing a with
  | nil => exact .bind (tame_checked _) fun _ => .ok _
  | cons r records ih =>
    rw [readEntries]
    refine .bind (tame_timestamp r) fun t => .ite (.ok _) (.ite (.failed _) (.bind (tame_identify _ _ _) fun _ => .ite (.ok _) ?_))
    exact .bind (tame_readEntry _ _ _) fun e => .ite (.ok _) (ih _)

end Expected

section Read

variable {unit : Service} {boot : BootId} {journal : Journal} {now : Reading} {accessOmitted : Bool}
variable {a : Answer} {shown rest : List Record} {es : List (Entry × Bool)} {cut : Bool}

/-- Nothing but inaccessible files is answered as denied. -/
def outcome (unit boot : Text) (now : Reading) (accessOmitted : Bool) (es : List (Entry × Bool)) (cut : Bool) : Answer :=
  if es.isEmpty ∧ accessOmitted then response .denied (some unit) now .partly
  else marked (total unit boot now accessOmitted es) cut

theorem collectEntries_eq : collectEntries unit boot journal now accessOmitted = checked journal.select >>= fun _ =>
    readEntries unit boot now.since.micros now.instant journal.ending journal.records (total unit boot now accessOmitted []) >>= fun a =>
      if a.entries.isEmpty ∧ accessOmitted then pure (response .denied (some unit) now .partly) else pure a := by
  have hsince : fromisoformat (opening unit.1 boot.1 now accessOmitted).since = some ⟨true,now.since.micros⟩ := fromisoformat_isoformat _
  have hopening : opening unit.1 boot.1 now accessOmitted = total unit boot now accessOmitted [] := rfl
  rw [collectEntries,hsince,hopening]

theorem collectEntries_iff : collectEntries unit boot journal now accessOmitted = .ok a ↔ journal.select = .ok () ∧ ∃ shown rest es cut,
    Leaves unit boot now accessOmitted journal.ending journal.records [] shown rest es cut ∧ a = outcome unit boot now accessOmitted es cut := by
  have hread (a : Answer) : readEntries unit boot now.since.micros now.instant journal.ending journal.records
      (total unit boot now accessOmitted []) = .ok a ↔ _ := readEntries_iff unit.2 boot.2 (Nat.zero_le _)
  simp only [List.nil_append] at hread
  have houtcome (es : List (Entry × Bool)) (cut : Bool) :
      (if (marked (total unit.1 boot.1 now accessOmitted es) cut).entries.isEmpty ∧ accessOmitted then
        (pure (response .denied (some unit.1) now .partly) : Except Raised Answer)
      else pure (marked (total unit.1 boot.1 now accessOmitted es) cut)) = .ok (outcome unit boot now accessOmitted es cut) := by
    rw [outcome]
    simp only [marked,total,List.isEmpty_map]
    split <;> rfl
  rw [collectEntries_eq]
  constructor
  · intro h
    cases hselect : journal.select with
    | error code => rw [hselect] at h; cases h
    | ok _ =>
    rw [hselect,checked,ok_bind] at h
    cases hentries : readEntries unit boot now.since.micros now.instant journal.ending journal.records (total unit boot now accessOmitted []) with
    | error e => rw [hentries] at h; cases h
    | ok b =>
    obtain ⟨shown,rest,es,cut,hleaves,rfl⟩ := (hread b).mp hentries
    rw [hentries,ok_bind,houtcome] at h
    cases h
    exact ⟨rfl,shown,rest,es,cut,hleaves,rfl⟩
  · rintro ⟨hselect,shown,rest,es,cut,hleaves,rfl⟩
    rw [hselect,checked,ok_bind,(hread _).mpr ⟨shown,rest,es,cut,hleaves,rfl⟩,ok_bind,houtcome]

/-- Without an entry nothing is cut. -/
theorem Leaves.uncut (h : Leaves unit boot now accessOmitted journal.ending journal.records [] shown rest [] cut) : cut = false := by
  have hstop := h.stop
  cases hstop with
  | done => rfl
  | old => rfl
  | full _ _ hfull => cases hfull
  | oversized hsound hfits => exact absurd (fits_single unit.2 boot.2 hsound) hfits

end Read

section Answers

variable {unit : Service} {boot : BootId} {journal : Journal} {now : Reading} {accessOmitted : Bool}
variable {a : Answer} {shown rest : List Record} {es : List (Entry × Bool)} {cut : Bool}

theorem response_wellFormed {status : JournalStatus} {canonicalId : Option Text} {coverage : Coverage} {unit : Text}
    (hcanonical : ∀ name ∈ canonicalId, name = unit ∧ unit.length ≤ 255) (hstatus : ¬(status = .ok ∨ status = .empty))
    (hcoverage : coverage ≠ .complete) : (response status canonicalId now coverage).WellFormed unit now := by
  have framed : (response status canonicalId now coverage).Framed unit now :=
    ⟨hcanonical,rfl,rfl,fun _ h => (by cases h),⟨status,rfl⟩⟩
  refine ⟨framed,?_,Nat.zero_le _,fun _ h => (by cases h),fun h => absurd h hstatus,fun _ => ⟨rfl,rfl,hcoverage⟩⟩
  have hzeros : id128 (List.replicate 32 '0') = true := by decide
  have hsize := length_short framed hzeros (Nat.zero_le _) fun _ h => (by cases h)
  exact hsize.trans (Nat.sub_le ..)

theorem entries_wellFormed (h : List.Forall₂ (Sound unit boot now) shown es) : ∀ e ∈ es.map (·.1), e.WellFormed boot now := by
  induction h with
  | nil => simp
  | cons hsound _ ih =>
    rw [List.map_cons,List.forall_mem_cons]
    exact ⟨hsound.wellFormed,ih⟩

/-- The mark does not make an answer longer. -/
theorem length_marked : (encode (marked a cut).toJson).length ≤ (encode a.toJson).length := by
  have hflag : flagLength (a.truncated || cut) ≤ flagLength a.truncated := by cases a.truncated <;> cases cut <;> decide
  rw [length_encode,length_encode]
  simp only [marked,frameLength]
  omega

theorem Leaves.size (h : Leaves unit boot now accessOmitted journal.ending journal.records [] shown rest es cut) :
    (encode (total unit.1 boot.1 now accessOmitted es).toJson).length ≤ outputBytes - 1 := by
  obtain rfl | hfits := h.fits
  · exact length_short (framed_total unit.2 boot.2) boot.2 (Nat.zero_le _) fun _ h => (by cases h)
  · exact hfits

theorem outcome_wellFormed (h : Leaves unit boot now accessOmitted journal.ending journal.records [] shown rest es cut) :
    (outcome unit boot now accessOmitted es cut).WellFormed unit now := by
  have hlength := length_of_validService unit.2
  rw [outcome]
  split
  case isTrue => exact response_wellFormed (fun name hname => by cases hname; exact ⟨rfl,hlength⟩) (by decide) (by decide)
  case isFalse hkept =>
    have framed : (total unit boot now accessOmitted es).Framed unit now := framed_total unit.2 boot.2
    refine ⟨⟨framed.canonical,framed.retrieved,framed.since,framed.boot,framed.gaps⟩,?_,?_,?_,?_,?_⟩
    case refine_1 => exact (length_marked.trans h.size).trans (Nat.sub_le ..)
    case refine_2 => simpa [marked,total] using h.count
    case refine_3 => exact fun e he => ⟨boot,rfl,entries_wellFormed h.sound e he⟩
    case refine_4 =>
      intro _
      have hcoverage : (if accessOmitted then Coverage.partly else .complete) ≠ .unknown := by split <;> decide
      cases es with
      | nil =>
        have hall : accessOmitted = false := by simpa using hkept
        exact ⟨hcoverage,fun _ => by simp [marked,total,hall,response],by simp [marked,total],rfl,by simp [marked,total]⟩
      | cons e es => exact ⟨hcoverage,fun h => (by simp [marked,total] at h),by simp [marked,total],rfl,by simp [marked,total]⟩
    case refine_5 =>
      intro hunread
      cases es <;> simp [marked,total] at hunread

/-- The entries out of the window are those after the ones that are left. -/
theorem Leaves.window (h : Leaves unit boot now accessOmitted journal.ending journal.records [] shown rest es cut) :
    journal.records.filter (inWindow now) = shown ++ rest.filter (inWindow now) ∧ (cut = true ↔ rest.filter (inWindow now) ≠ []) := by
  have hwithin {r : Record} (hr : Within now r) : inWindow now r = true := by
    obtain ⟨t,htime,hsince,hnow⟩ := hr
    simp [inWindow,htime,hsince,hnow]
  have hshown : ∀ r ∈ shown, inWindow now r = true := by
    have hsound := h.sound
    clear h
    induction hsound with
    | nil => simp
    | cons hsound _ ih => exact List.forall_mem_cons.mpr ⟨hwithin hsound.within,ih⟩
  rw [h.records,List.filter_append,List.filter_eq_self.mpr hshown]
  refine ⟨rfl,?_⟩
  have hnewest := journal.newestFirst
  rw [h.records,List.pairwise_append] at hnewest
  have hstop := h.stop
  cases hstop with
  | done => simp
  | @old r rest t htime hold =>
    have hrest : (r :: rest).filter (inWindow now) = [] := by
      rw [List.filter_eq_nil_iff,List.forall_mem_cons]
      refine ⟨by simp [inWindow,htime]; omega,?_⟩
      intro r' hr' hin
      rw [inWindow] at hin
      cases htime' : r'.time with
      | error undated => rw [htime'] at hin; cases hin
      | ok t' =>
        rw [htime'] at hin
        have hle := (List.pairwise_cons.mp hnewest.2.1).1 r' hr' t t' htime htime'
        simp at hin
        omega
    simp [hrest]
  | full hr => simp [hwithin hr]
  | oversized hr => simp [hwithin hr.within]

end Answers

section Told

variable {unit : Service} {boot : BootId} {journal : Journal} {now : Reading} {accessOmitted : Bool}
variable {a : Answer} {shown rest : List Record} {es : List (Entry × Bool)} {cut : Bool}

theorem Sound.leftOut {r : Record} {e : Entry × Bool} (h : Sound unit boot now r e) : e.2 = true ↔ LeftOut (r,e.1) := by
  obtain ⟨t,htime,-,-,hunit,hentry⟩ := h
  exact (readEntry_sound hentry hunit htime).2.2.2

theorem any_leftOut (h : List.Forall₂ (Sound unit boot now) shown es) :
    es.any (·.2) = true ↔ ∃ told ∈ shown.zip (es.map (·.1)), LeftOut told := by
  induction h with
  | nil => simp
  | @cons r e shown es hsound _ ih =>
    rw [List.any_cons,Bool.or_eq_true,ih,hsound.leftOut,List.map_cons,List.zip_cons_cons]
    simp only [List.mem_cons,exists_eq_or_imp]

theorem told_of_sound (h : List.Forall₂ (Sound unit boot now) shown es) : List.Forall₂ (Tells unit boot) shown (es.map (·.1)) :=
  List.forall₂_map_right_iff.mpr (h.imp fun _ _ hsound => hsound.tells)

theorem outcome_entries : (outcome unit boot now accessOmitted es cut).entries = es.map (·.1) := by
  rw [outcome]
  split
  case isTrue h =>
    rw [List.isEmpty_iff.mp h.1]
    rfl
  case isFalse => rfl

theorem Leaves.truncated (h : Leaves unit boot now accessOmitted journal.ending journal.records [] shown rest es cut) :
    (outcome unit boot now accessOmitted es cut).truncated = true ↔ cut = true ∨ es.any (·.2) = true := by
  rw [outcome]
  split
  case isTrue hdenied =>
    obtain rfl := List.isEmpty_iff.mp hdenied.1
    have := h.uncut
    simp [response,this]
  case isFalse =>
    rw [marked,Bool.or_eq_true]
    exact or_comm

/-- Where an entry of the window is left out, one of the ceilings was reached. -/
theorem Leaves.ceiling (h : Leaves unit boot now accessOmitted journal.ending journal.records [] shown rest es cut) :
    rest.filter (inWindow now) = [] ∨ (outcome unit boot now accessOmitted es cut).entries.length = maxEntries ∨
    ∃ next more e truncated, rest.filter (inWindow now) = next :: more ∧ Tells unit boot next e ∧
      (truncated = true ↔ ∃ told ∈ (shown ++ [next]).zip ((outcome unit boot now accessOmitted es cut).entries ++ [e]), LeftOut told) ∧
      outputBytes - 1 < (encode { outcome unit boot now accessOmitted es cut with
        entries := (outcome unit boot now accessOmitted es cut).entries ++ [e], truncated := truncated }.toJson).length := by
  have hcut := h.window.2
  have hstop := h.stop
  rw [outcome_entries]
  cases hstop with
  | done => exact .inl rfl
  | old => exact .inl (not_not.mp fun hmore => absurd (hcut.mpr hmore) (by decide))
  | full _ _ hfull => exact .inr (.inl (by simpa using hfull))
  | @oversized next rest e hsound hfits =>
    cases es with
    | nil => exact absurd (fits_single unit.2 boot.2 hsound) hfits
    | cons first es =>
      have hin : (next :: rest).filter (inWindow now) = next :: rest.filter (inWindow now) := by
        obtain ⟨t,htime,hsince,hnow⟩ := hsound.within
        exact List.filter_cons_of_pos (by simp [inWindow,htime,hsince,hnow])
      have hall : List.Forall₂ (Sound unit boot now) (shown ++ [next]) (first :: es ++ [e]) :=
        List.rel_append h.sound (.cons hsound .nil)
      have hmarks := any_leftOut hall
      rw [List.map_append] at hmarks
      have hsame : { outcome unit boot now accessOmitted (first :: es) true with
          entries := (first :: es).map (·.1) ++ [e.1], truncated := (first :: es ++ [e]).any (·.2) } =
          total unit boot now accessOmitted (first :: es ++ [e]) := by
        rw [outcome,if_neg (by simp)]
        simp [marked,total]
      have hlong : ¬Fits unit boot now accessOmitted (first :: es ++ [e]) := hfits
      refine .inr (.inr ⟨next,_,e.1,(first :: es ++ [e]).any (·.2),hin,hsound.tells,hmarks,?_⟩)
      rw [hsame]
      exact Nat.lt_of_not_le hlong

/-- A successful read tells the newest entries in the window. -/
theorem Leaves.newest (h : Leaves unit boot now accessOmitted journal.ending journal.records [] shown rest es cut) :
    Newest unit boot journal now (outcome unit boot now accessOmitted es cut) shown (rest.filter (inWindow now)) := by
  obtain ⟨hwindow,hcut⟩ := h.window
  have htruncated := h.truncated
  rw [any_leftOut h.sound,hcut] at htruncated
  refine ⟨hwindow,?_,?_,?_,?_⟩
  · rw [outcome_entries]
    exact told_of_sound h.sound
  · rw [outcome_entries,List.length_map]
    simpa using h.count
  · exact h.ceiling
  · rw [outcome_entries]
    exact htruncated

theorem messages_iff (h : List.Forall₂ (Sound unit boot now) shown es) (hentries : a.entries = es.map (·.1)) :
    Messages a shown ↔ ∀ r ∈ shown, ∀ original, r.value .message = some original → ¬Utf8.SplitCharacter messageBytes original := by
  have htold := told_of_sound h
  rw [Messages,hentries]
  clear h hentries
  generalize es.map (·.1) = entries at htold
  induction htold with
  | nil => simp
  | @cons r e shown entries hr _ ih =>
    rw [List.zip_cons_cons,List.forall_mem_cons,List.forall_mem_cons]
    refine and_congr ?_ ih
    rw [hr.message]
    cases r.value .message with
    | none => simp
    | some original =>
      have hprefix := Utf8.shown_prefix_iff messageBytes original
      simp only [Option.map_some,Option.mem_some_iff,Option.some.injEq,forall_eq',exists_eq_left']
      rw [← hprefix]
      exact and_iff_right (size_shownText original)

end Told

section Collected

theorem collectEntries_wellFormed {unit : Service} {boot : BootId} {journal : Journal} {now : Reading} {accessOmitted : Bool} {a : Answer}
    (h : collectEntries unit boot journal now accessOmitted = .ok a) : a.WellFormed unit now := by
  obtain ⟨-,shown,rest,es,cut,hleaves,rfl⟩ := collectEntries_iff.mp h
  exact outcome_wellFormed hleaves

theorem collectEntries_tame {unit : Service} {boot : BootId} {journal : Journal} {now : Reading} {accessOmitted : Bool} :
    Tame (collectEntries unit boot journal now accessOmitted) := by
  rw [collectEntries_eq]
  exact .bind (tame_checked _) fun _ => .bind (tame_readEntries _ _ _ _ _ _ _) fun _ => .ite (.ok _) (.ok _)

/-- Statuses other than those of a read are accepted with any coverage but a complete one. -/
theorem accepted_response {status : JournalStatus} {coverage : Coverage} {unit : Text} (now : Reading) (hunit : unit.length ≤ 255)
    (hstatus : ¬(status = .ok ∨ status = .empty)) (hcoverage : coverage ≠ .complete) :
    validate (response status (some unit) now coverage).toJson unit = true :=
  validate_toJson (response_wellFormed (fun name hname => by cases hname; exact ⟨rfl,hunit⟩) hstatus hcoverage)

theorem Failure.status_unread (failure : Failure) : ¬(failure.status = .ok ∨ failure.status = .empty) := by
  cases failure <;> decide

theorem covered_ne (accessOmitted : Bool) : covered accessOmitted ≠ .complete := by cases accessOmitted <;> decide

theorem bootId_sound {file : Except Raised Text} {boot : Text} (h : bootId file = .ok boot) : id128 boot = true := by
  cases file with
  | error e => cases h
  | ok text =>
    rw [bootId,ok_bind] at h
    dsimp only at h
    split at h
    · next hid =>
      cases h
      exact hid
    · cases h

/-- What the attempt answers is accepted. -/
theorem attempt_accepted {w : World} {unit : Text} (hunit : validService unit = true) {a : Answer} (h : (attempt w unit).2 = .ok a) :
    validate a.toJson unit = true := by
  have hlength := length_of_validService hunit
  have hchanged : validate (response .identityChanged (some unit) w.later .unknown).toJson unit = true :=
    accepted_response w.later hlength (by decide) (by decide)
  rw [attempt] at h
  cases hbefore : journalIdentity w.before unit with
  | error e => rw [hbefore] at h; cases h
  | ok status =>
  rw [hbefore] at h
  dsimp only at h
  split at h
  case isTrue hstatus =>
    cases h
    exact accepted_response w.later hlength (by cases status <;> simp [IdentityStatus.status] at hstatus ⊢) (by decide)
  case isFalse =>
  cases hboot : bootId w.boot with
  | error e => rw [hboot] at h; cases h
  | ok boot =>
  rw [hboot] at h
  dsimp only at h
  cases hfiles : w.files with
  | error e => rw [hfiles] at h; cases h
  | ok accessOmitted =>
  rw [hfiles] at h
  dsimp only at h
  cases hread : withFiles accessOmitted (w.native >>= fun journal => collectEntries unit boot journal w.now accessOmitted) with
  | error e => rw [hread] at h; cases h
  | ok answer =>
  have hanswer : validate answer.toJson unit = true := by
    cases hnative : w.native with
    | error e =>
      rw [hnative,error_bind] at hread
      cases e <;> cases hread
    | ok journal =>
      rw [hnative,ok_bind] at hread
      cases hcollect : collectEntries unit boot journal w.now accessOmitted with
      | error e =>
        rw [hcollect] at hread
        cases e <;> cases hread
      | ok b =>
        rw [hcollect] at hread
        cases hread
        exact validate_toJson (@collectEntries_wellFormed ⟨unit,hunit⟩ ⟨boot,bootId_sound hboot⟩ _ _ _ _ hcollect)
  rw [hread,ok_bind] at h
  cases hafter : journalIdentity w.after unit with
  | error e => rw [hafter] at h; cases h
  | ok status =>
  rw [hafter,ok_bind] at h
  split at h
  case isTrue =>
    cases h
    exact hchanged
  case isFalse =>
  cases hagain : bootId w.bootAfter with
  | error e => rw [hagain] at h; cases h
  | ok boot' =>
  rw [hagain,ok_bind] at h
  split at h
  case isTrue =>
    cases h
    exact hchanged
  case isFalse =>
    cases h
    exact hanswer

/-- The collection never answers what is not accepted. -/
theorem collect_accepted (w : World) (unit : Text) : validate (collect w unit).toJson unit = true := by
  rw [collect]
  split
  case isTrue => exact validate_toJson (@response_wellFormed w.later _ none _ unit (fun _ h => (by cases h)) (by decide) (by decide))
  case isFalse hvalid =>
    have hunit : validService unit = true := by simpa using hvalid
    have hlength := length_of_validService hunit
    dsimp only
    cases hattempt : (attempt w unit).2 with
    | ok a => exact attempt_accepted hunit hattempt
    | error e =>
      cases e with
      | journal failure omitted => exact accepted_response w.later hlength failure.status_unread (covered_ne _)
      | permission => exact accepted_response w.later hlength (by decide) (covered_ne _)
      | value => exact accepted_response w.later hlength (by decide) (covered_ne _)
      | os => exact accepted_response w.later hlength (by decide) (covered_ne _)
      | other => exact accepted_response w.later hlength (by decide) (covered_ne _)

end Collected

section Main

theorem contract_iff (unit : Service) (boot : BootId) (journal : Journal) (now : Reading) (accessOmitted : Bool) :
    Contract unit boot journal now accessOmitted ↔ NoneSplit unit boot journal now accessOmitted := by
  rw [Contract]
  cases hcollect : collectEntries unit boot journal now accessOmitted with
  | error e =>
    refine iff_of_true (collectEntries_tame e hcollect) ?_
    intro hselect shown rest es cut hleaves
    rw [collectEntries_iff.mpr ⟨hselect,shown,rest,es,cut,hleaves,rfl⟩] at hcollect
    cases hcollect
  | ok a =>
    constructor
    · rintro ⟨-,shown',more',hnewest',hmessages⟩ hselect shown rest es cut hleaves
      have hsame := collectEntries_iff.mpr ⟨hselect,shown,rest,es,cut,hleaves,rfl⟩
      rw [hcollect] at hsame
      cases hsame
      have hshown : shown' = shown := by
        have hwindow := hnewest'.window.symm.trans hleaves.newest.window
        have hlength := hnewest'.told.length_eq.trans hleaves.newest.told.length_eq.symm
        exact (List.append_inj hwindow hlength).1
      subst hshown
      exact (messages_iff hleaves.sound outcome_entries).mp hmessages
    · intro hsplit
      obtain ⟨hselect,shown,rest,es,cut,hleaves,rfl⟩ := collectEntries_iff.mp hcollect
      have hmessages : Messages (outcome unit boot now accessOmitted es cut) shown :=
        (messages_iff hleaves.sound outcome_entries).mpr (hsplit hselect shown rest es cut hleaves)
      exact ⟨validate_toJson (outcome_wellFormed hleaves),shown,_,hleaves.newest,hmessages⟩

/-- A read keeps its contract exactly where no message that is displayed is split inside a character, and
the collection always answers what is accepted. -/
theorem journal_contract (unit : Service) (boot : BootId) (journal : Journal) (now : Reading) (accessOmitted : Bool) (w : World)
    (named : Text) : (Contract unit boot journal now accessOmitted ↔ NoneSplit unit boot journal now accessOmitted) ∧
      validate (collect w named).toJson named = true :=
  ⟨contract_iff unit boot journal now accessOmitted,collect_accepted w named⟩

/-- A message of one byte more than the reader takes, which ends in a character of four bytes. -/
def splitMessage : Bytes := List.replicate 4093 97 ++ String.utf8EncodeChar '🦊'

def alpha : Service := ⟨"alpha.service".toList,by decide +kernel⟩

def aBoot : BootId := ⟨List.replicate 32 'a',by decide⟩

def noon : Reading := ⟨⟨63929044800000000,by decide⟩,⟨63929043900000000,by decide⟩,by decide⟩

def splitRecord : Record where
  time := .ok noon.instant
  data
    | .systemdUnit => .ok (FieldName.systemdUnit.start ++ Utf8.encode alpha)
    | .bootId => .ok (FieldName.bootId.start ++ Utf8.encode aBoot)
    | .message => .ok (FieldName.message.start ++ splitMessage)
    | _ => .error .enoent

def splitJournal : Journal := ⟨.ok (),[splitRecord],.ok (),List.pairwise_singleton _ _⟩

theorem splitMessage_split : Utf8.SplitCharacter messageBytes splitMessage := by
  have hfront : List.replicate 4093 (97 : UInt8) = Utf8.encode (List.replicate 4093 'a') := by
    generalize 4093 = n
    induction n with
    | zero => rfl
    | succ n ih => rw [List.replicate_succ,List.replicate_succ,Utf8.encode_cons,← ih]; rfl
  have hsize : Utf8.size (List.replicate 4093 'a') = 4093 := by rw [Utf8.size,← hfront,List.length_replicate]
  refine ⟨List.replicate 4093 97,'🦊',[],(List.append_nil _).symm,by decide,by rw [List.length_replicate]; rfl,?_⟩
  rw [hfront,decodeReplace_encode,hsize,← hfront,List.length_replicate]

theorem value_of_data {r : Record} {name : FieldName} {bytes : Bytes} (h : r.data name = .ok (name.start ++ bytes)) : r.value name = some bytes := by
  rw [Record.value,h]
  simp

theorem field_of_data {r : Record} {name : FieldName} {bytes : Bytes} (h : r.data name = .ok (name.start ++ bytes)) (limit : ℕ) (optional : Bool) :
    r.field name limit optional = .ok (some (bytes.take limit),limit < bytes.length) := by
  rw [Record.field,h]
  dsimp only
  rw [if_neg (by simp),List.take_length_add_append,if_pos (by simp),List.drop_left]
  simp

theorem splitRecord_sound : ∃ e, Sound alpha aBoot noon splitRecord e := by
  have hidentity : identify alpha aBoot splitRecord = .ok () := by decide +kernel
  have hpriority : splitRecord.field .priority 1 true = .ok (none,false) := rfl
  have hinvocation : splitRecord.field .invocationId 32 true = .ok (none,false) := rfl
  have hmessage : splitRecord.field .message messageBytes true = _ := field_of_data rfl messageBytes true
  have hentry : ∃ e, readEntry aBoot noon.instant splitRecord = .ok e := by
    rw [readEntry,hpriority,hinvocation,hmessage]
    exact ⟨_,rfl⟩
  obtain ⟨e,hentry⟩ := hentry
  exact ⟨e,noon.instant,rfl,by decide,le_rfl,hidentity,hentry⟩

theorem split_breaks_contract : ¬Contract alpha aBoot splitJournal noon false := by
  rw [contract_iff]
  intro hnone
  obtain ⟨e,hsound⟩ := splitRecord_sound
  have hleaves : Leaves alpha.1 aBoot.1 noon false splitJournal.ending splitJournal.records [] [splitRecord] [] [e] false :=
    ⟨rfl,.cons hsound .nil,by simp [maxEntries],.inr (fits_single alpha.2 aBoot.2 hsound),.done rfl⟩
  exact hnone rfl _ _ _ _ hleaves splitRecord List.mem_cons_self splitMessage (value_of_data rfl) splitMessage_split

end Main

end ServiceJournal
end LocalPlane
