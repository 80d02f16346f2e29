import LocalPlane.JournalSize
import Mathlib.Data.List.Induction

/-!
# What a journal answer tells

A successful read leaves a start of the entries in the window: all of them, or as many as an
answer may have, or as many as find room. Each is told as the journal has it, up to what is
cut of its message, and the answer is marked exactly when something is left out.
-/

set_option linter.dupNamespace false

namespace LocalPlane
namespace ServiceJournal
open CivilTime

section Fields

/-- The bytes of a field, where the entry has it. -/
def Record.value (r : Record) (name : FieldName) : Option Bytes :=
  match r.data name with
  | .ok object => if name.start.isPrefixOf object then some (object.drop name.start.length) else none
  | .error _ => none

/-- What is displayed of a message. -/
def shownText (original : Bytes) : Text := Utf8.fit messageBytes (Utf8.decodeReplace (original.take messageBytes))

variable {r : Record} {name : FieldName} {limit : ℕ} {optional cut : Bool} {value : Option Bytes}

theorem isPrefixOf_take {start object : Bytes} {n : ℕ} (h : start.length ≤ n) :
    start.isPrefixOf (object.take n) = start.isPrefixOf object := by
  rw [Bool.eq_iff_iff,List.isPrefixOf_iff_prefix,List.isPrefixOf_iff_prefix,List.prefix_take_iff]
  exact and_iff_left h

/-- A field that is read is read up to the limit, and what is beyond is told. -/
theorem field_eq (h : r.field name limit optional = .ok (value,cut)) :
    value = (r.value name).map (·.take limit) ∧ cut = (r.value name).any fun bytes => limit < bytes.length := by
  rw [Record.field] at h
  rw [Record.value]
  cases hdata : r.data name with
  | error code =>
    rw [hdata] at h
    dsimp only at h
    split at h
    · cases h
      exact ⟨rfl,rfl⟩
    · cases h
  | ok object =>
    rw [hdata] at h
    dsimp only at h ⊢
    split at h
    · cases h
    · rw [isPrefixOf_take (Nat.le_add_right ..)] at h
      split at h
      case isTrue hshort hstart =>
        cases h
        rw [if_pos hstart]
        refine ⟨?_,?_⟩
        · rw [Option.map_some,List.drop_take,Nat.add_sub_cancel_left]
        · simp only [Option.any_some,List.length_drop]
          exact decide_eq_decide.mpr (by omega)
      case isFalse => cases h

/-- A field that is not cut is read whole. -/
theorem field_whole (h : r.field name limit optional = .ok (value,false)) : value = r.value name := by
  obtain ⟨hvalue,hcut⟩ := field_eq h
  cases hr : r.value name with
  | none => rw [hvalue,hr]; rfl
  | some bytes =>
    rw [hr,Option.any_some] at hcut
    rw [hvalue,hr,Option.map_some,List.take_of_length_le (by simpa using hcut)]

end Fields

section Entries

variable {unit boot : Text} {r : Record} {e : Entry} {cut : Bool} {t : CivilTime.Instant}

theorem decodeReplace_encode (text : Text) : Utf8.decodeReplace (Utf8.encode text) = text := by
  have h := Utf8.units_encode text []
  rw [List.append_nil,Utf8.units_nil,Utf8.flush_idle,List.append_nil] at h
  simp [Utf8.decodeReplace,h]

theorem encode_decodeAscii {bytes : Bytes} {text : Text} (h : decodeAscii bytes = .ok text) : Utf8.encode text = bytes := by
  rw [decodeAscii] at h
  split at h
  case isFalse => cases h
  case isTrue hascii =>
    cases h
    have hall : ∀ b ∈ bytes, b.toNat < 128 := by simpa [List.all_eq_true] using hascii
    clear hascii
    induction bytes with
    | nil => rfl
    | cons b bytes ih =>
      have hb := hall b List.mem_cons_self
      have hchar : String.utf8EncodeChar (Char.ofNat b.toNat) = [b] := by
        rw [Utf8.encodeChar_eq (Utf8.charOf_val (.inl (by omega))),if_pos (by omega),UInt8.ofNat_toNat]
      rw [List.map_cons,Utf8.encode_cons,hchar,ih fun b hb => hall b (List.mem_cons_of_mem _ hb)]
      rfl

/-- Both identities are the entry's own, whole. -/
theorem identify_sound (h : identify unit boot r = .ok ()) :
    r.value .systemdUnit = some (Utf8.encode unit) ∧ r.value .bootId = some (Utf8.encode boot) := by
  rw [identify] at h
  cases hunit : r.field .systemdUnit 255 false with
  | error e => rw [hunit] at h; cases h
  | ok actualUnit =>
    cases hboot : r.field .bootId 32 false with
    | error e => rw [hunit,hboot] at h; cases h
    | ok actualBoot =>
      obtain ⟨actualUnit,unitCut⟩ := actualUnit
      obtain ⟨actualBoot,bootCut⟩ := actualBoot
      rw [hunit,hboot] at h
      simp only [bind,Except.bind] at h
      split at h
      · cases h
      · next hsame =>
        simp only [not_or,not_not,Bool.not_eq_true] at hsame
        obtain ⟨rfl,rfl,rfl,rfl⟩ := hsame
        exact ⟨(field_whole hunit).symm,(field_whole hboot).symm⟩

theorem takePriority_sound {value : Option Bytes} {priority : Option Text} (h : r.field .priority 1 true = .ok (value,cut))
    (htake : takePriority (value,cut) = .ok priority) :
    priority.map Utf8.encode = r.value .priority ∧ ∀ text ∈ priority, text ∈ priorities := by
  cases value with
  | none =>
    rw [takePriority] at htake
    split at htake
    · cases htake
    · next hcut =>
      cases htake
      obtain rfl : cut = false := by simpa using hcut
      exact ⟨field_whole h,by simp⟩
  | some bytes =>
    rw [takePriority] at htake
    split at htake
    · cases htake
    · next hsound =>
      cases htake
      simp only [not_or,Bool.not_eq_true,not_not] at hsound
      obtain ⟨rfl,hmem⟩ := hsound
      obtain ⟨text,htext,rfl⟩ := List.mem_map.mp hmem
      rw [decodeReplace_encode]
      exact ⟨field_whole h,by simpa using htext⟩

theorem takeInvocation_sound {value : Option Bytes} {invocation : Option Text} (h : r.field .invocationId 32 true = .ok (value,cut))
    (htake : takeInvocation (value,cut) = .ok invocation) :
    invocation.map Utf8.encode = r.value .invocationId ∧ ∀ text ∈ invocation, id128 text = true := by
  cases value with
  | none =>
    rw [takeInvocation] at htake
    split at htake
    · cases htake
    · next hcut =>
      cases htake
      obtain rfl : cut = false := by simpa using hcut
      exact ⟨field_whole h,by simp⟩
  | some bytes =>
    rw [takeInvocation] at htake
    split at htake
    · cases htake
    · next hcut =>
      obtain rfl : cut = false := by simpa using hcut
      cases htext : decodeAscii bytes with
      | error e => rw [htext] at htake; cases htake
      | ok text =>
        rw [htext] at htake
        simp only [bind,Except.bind] at htake
        split at htake
        · next hid =>
          cases htake
          rw [Option.map_some,encode_decodeAscii htext]
          exact ⟨field_whole h,by simpa using hid⟩
        · cases htake

/-- What is displayed is what fits, and the mark says whether it is all. -/
theorem displayed_sound {value : Option Bytes} (h : r.field .message messageBytes true = .ok (value,cut)) :
    (displayed (value,cut)).1 = (r.value .message).map shownText ∧
      ((displayed (value,cut)).2 = true ↔ (displayed (value,cut)).1 ≠ (r.value .message).map Utf8.decodeReplace) := by
  obtain ⟨hvalue,hcut⟩ := field_eq h
  cases horiginal : r.value .message with
  | none =>
    rw [horiginal] at hvalue hcut
    subst hvalue hcut
    simp [displayed]
  | some original =>
    rw [horiginal] at hvalue hcut
    subst hvalue hcut
    have hshown : Utf8.decodeIgnore ((Utf8.encode (Utf8.decodeReplace (original.take messageBytes))).take messageBytes) = shownText original :=
      Utf8.decodeIgnore_take ..
    have hall := Utf8.shown_all_iff messageBytes original
    simp only [Option.map_some,Option.any_some,displayed,hshown,true_and,ne_eq,Option.some.injEq]
    rw [shownText,hall,Bool.or_eq_true,decide_eq_true_eq,decide_eq_true_eq,Decidable.not_and_iff_or_not,Nat.not_le,Nat.not_le]
    rfl

/-- The entry is told as the journal has it. -/
structure Tells (unit boot : Text) (r : Record) (e : Entry) : Prop where
  timestamp : ∃ t, r.time = .ok t ∧ e.timestamp = isoformat t
  matching : r.value .systemdUnit = some (Utf8.encode unit) ∧ r.value .bootId = some (Utf8.encode boot)
  boot : e.bootId = boot
  priority : e.priority.map Utf8.encode = r.value .priority
  invocation : e.invocationId.map Utf8.encode = r.value .invocationId
  message : e.message = (r.value .message).map shownText

theorem readEntry_sound (hentry : readEntry boot t r = .ok (e,cut)) (hunit : identify unit boot r = .ok ()) (htime : r.time = .ok t) :
    Tells unit boot r e ∧ (∀ text ∈ e.priority, text ∈ priorities) ∧ (∀ text ∈ e.invocationId, id128 text = true) ∧
      (cut = true ↔ e.message ≠ (r.value .message).map Utf8.decodeReplace) := by
  rw [readEntry] at hentry
  cases hpriority : r.field .priority 1 true with
  | error e => rw [hpriority] at hentry; cases hentry
  | ok priority =>
  cases hinvocation : r.field .invocationId 32 true with
  | error e => rw [hpriority,hinvocation] at hentry; cases hentry
  | ok invocation =>
  rw [hpriority,hinvocation] at hentry
  simp only [bind,Except.bind] at hentry
  cases htp : takePriority priority with
  | error e => rw [htp] at hentry; cases hentry
  | ok p =>
  cases hti : takeInvocation invocation with
  | error e => rw [htp,hti] at hentry; cases hentry
  | ok i =>
  cases hmessage : r.field .message messageBytes true with
  | error e => rw [htp,hti,hmessage] at hentry; cases hentry
  | ok message =>
  rw [htp,hti,hmessage] at hentry
  cases hentry
  obtain ⟨hp,hpall⟩ := takePriority_sound hpriority htp
  obtain ⟨hi,hiall⟩ := takeInvocation_sound hinvocation hti
  obtain ⟨hm,hmcut⟩ := displayed_sound hmessage
  exact ⟨⟨⟨t,htime,rfl⟩,identify_sound hunit,rfl,hp,hi,hm⟩,hpall,hiall,hmcut⟩

theorem size_shownText (original : Bytes) : Utf8.size (shownText original) ≤ messageBytes := Utf8.size_fit ..

end Entries

section Loop

variable (unit boot : Text) (now : Reading) (accessOmitted : Bool)

def Within (now : Reading) (r : Record) : Prop := ∃ t, r.time = .ok t ∧ now.since.micros ≤ t.micros ∧ t.micros ≤ now.instant.micros

/-- An entry in the window, of the unit and the boot, every field of which reads. -/
def Sound (r : Record) (e : Entry × Bool) : Prop :=
  ∃ t, r.time = .ok t ∧ now.since.micros ≤ t.micros ∧ t.micros ≤ now.instant.micros ∧ identify unit boot r = .ok () ∧
    readEntry boot t r = .ok e

/-- The answer with these entries. -/
def total (es : List (Entry × Bool)) : Answer :=
  { response .empty (some unit) now (if accessOmitted then .partly else .complete) with
    bootId := some boot
    entries := es.map (·.1)
    status := if es.isEmpty then .empty else .ok
    truncated := es.any (·.2) }

def Fits (es : List (Entry × Bool)) : Prop := (encode (total unit boot now accessOmitted es).toJson).length ≤ outputBytes - 1

/-- Why no more entries are taken, and whether that leaves one of the window out. -/
inductive Stop (ending : Except Errno Unit) (es : List (Entry × Bool)) : List Record → Bool → Prop
  | done : ending = .ok () → Stop ending es [] false
  | old {r : Record} {rest : List Record} {t : CivilTime.Instant} : r.time = .ok t → t.micros < now.since.micros → Stop ending es (r :: rest) false
  | full {r : Record} {rest : List Record} : Within now r → identify unit boot r = .ok () → es.length = maxEntries →
      Stop ending es (r :: rest) true
  | oversized {r : Record} {rest : List Record} {e : Entry × Bool} : Sound unit boot now r e → ¬Fits unit boot now accessOmitted (es ++ [e]) →
      Stop ending es (r :: rest) true

/-- What the ceilings leave of the entries, where none that is met is refused. -/
structure Leaves (ending : Except Errno Unit) (records : List Record) (taken : List (Entry × Bool)) (shown rest : List Record)
    (es : List (Entry × Bool)) (cut : Bool) : Prop where
  records : records = shown ++ rest
  sound : List.Forall₂ (Sound unit boot now) shown es
  count : (taken ++ es).length ≤ maxEntries
  fits : es = [] ∨ Fits unit boot now accessOmitted (taken ++ es)
  stop : Stop unit boot now accessOmitted ending (taken ++ es) rest cut

def marked (a : Answer) (cut : Bool) : Answer := { a with truncated := a.truncated || cut }

variable {unit boot now accessOmitted}
variable {es taken : List (Entry × Bool)} {e : Entry × Bool} {a : Answer} {r : Record} {ending : Except Errno Unit} {records : List Record}

theorem add_total : (total unit boot now accessOmitted es).add e = total unit boot now accessOmitted (es ++ [e]) := by
  simp [total,Answer.add]

@[simp] theorem length_entries_total : (total unit boot now accessOmitted es).entries.length = es.length := by simp [total]

@[simp] theorem marked_false : marked a false = a := by simp [marked]

/-- An entry more makes the answer longer, once there is one. -/
theorem Fits.of_append {more : List (Entry × Bool)} (hes : es ≠ []) (h : Fits unit boot now accessOmitted (es ++ more)) :
    Fits unit boot now accessOmitted es := by
  induction more using List.reverseRecOn with
  | nil => simpa using h
  | append_singleton more e ih =>
    refine ih ?_
    have hne : (es ++ more).isEmpty = false := by simp [hes]
    have hne' : (es ++ (more ++ [e])).isEmpty = false := by simp [hes]
    have hitems := JsonText.length_dumpsItems_snoc ((es ++ more).map fun e => e.1.toJson) e.1.toJson
    have hobj : 2 ≤ (JsonText.dumps e.1.toJson).length := by
      rw [Entry.toJson,JsonText.length_dumps_obj]
      omega
    have hflag : flagLength ((es ++ more).any (·.2)) ≤ flagLength ((es ++ (more ++ [e])).any (·.2)) + 1 := by
      cases (es ++ more).any (·.2) <;> cases (es ++ (more ++ [e])).any (·.2) <;> decide
    have hframe : frameLength (total unit boot now accessOmitted (es ++ more)) =
        frameLength (total unit boot now accessOmitted (es ++ (more ++ [e]))) := rfl
    rw [Fits,length_encode] at h ⊢
    rw [← hframe] at h
    simp only [total,hne,hne',List.map_append,List.map_cons,List.map_nil,List.map_map,List.append_assoc,Function.comp_def] at h hitems hflag ⊢
    omega

theorem Sound.tells (h : Sound unit boot now r e) : Tells unit boot r e.1 := by
  obtain ⟨t,htime,-,-,hunit,hentry⟩ := h
  exact (readEntry_sound hentry hunit htime).1

theorem Sound.within (h : Sound unit boot now r e) : Within now r := by
  obtain ⟨t,htime,hsince,hnow,-⟩ := h
  exact ⟨t,htime,hsince,hnow⟩

theorem Sound.wellFormed (h : Sound unit boot now r e) : e.1.WellFormed boot now := by
  obtain ⟨t,htime,hsince,hnow,hunit,hentry⟩ := h
  obtain ⟨htells,hpriority,hinvocation,-⟩ := readEntry_sound hentry hunit htime
  obtain ⟨t',htime',hstamp⟩ := htells.timestamp
  cases htime.symm.trans htime'
  refine ⟨⟨t,hsince,hnow,hstamp⟩,hpriority,?_,htells.boot,hinvocation⟩
  intro text htext
  rw [htells.message] at htext
  obtain ⟨original,-,rfl⟩ := Option.map_eq_some_iff.mp htext
  exact size_shownText original

theorem framed_total (hunit : validService unit = true) (hboot : id128 boot = true) : (total unit boot now accessOmitted es).Framed unit now where
  canonical name hname := by
    cases hname
    exact ⟨rfl,length_of_validService hunit⟩
  retrieved := rfl
  since := rfl
  boot b hb := by
    cases hb
    exact hboot
  gaps := ⟨.empty,rfl⟩

/-- A first entry always finds room. -/
theorem fits_single (hunit : validService unit = true) (hboot : id128 boot = true) (h : Sound unit boot now r e) :
    Fits unit boot now accessOmitted [e] := by
  refine length_short (framed_total hunit hboot) hboot (by simp [total]) ?_
  intro e' he'
  obtain rfl : e' = e.1 := by simpa [total] using he'
  exact h.wellFormed

theorem overflow_iff : outputBytes - 1 < (encode ((total unit boot now accessOmitted taken).add e).toJson).length ↔
    ¬Fits unit boot now accessOmitted (taken ++ [e]) := by
  rw [add_total,Fits,Nat.not_le]

theorem ok_bind {α β : Type} (a : α) (f : α → Except Raised β) : (Except.ok a >>= f) = f a := rfl

theorem error_bind {α β : Type} (raised : Raised) (f : α → Except Raised β) : (Except.error raised >>= f) = .error raised := rfl

/-- What the loop does at an entry. -/
theorem readEntries_cons : readEntries unit boot now.since.micros now.instant ending (r :: records) (total unit boot now accessOmitted taken) = .ok a ↔
    (∃ t, r.time = .ok t ∧ t.micros < now.since.micros ∧ a = total unit boot now accessOmitted taken) ∨
    (Within now r ∧ identify unit boot r = .ok () ∧ taken.length = maxEntries ∧
      a = marked (total unit boot now accessOmitted taken) true) ∨
    (∃ e, Sound unit boot now r e ∧ taken.length ≠ maxEntries ∧ ¬Fits unit boot now accessOmitted (taken ++ [e]) ∧
      a = { total unit boot now accessOmitted (taken ++ [e]) with entries := taken.map (·.1), truncated := true }) ∨
    ∃ e, Sound unit boot now r e ∧ taken.length ≠ maxEntries ∧ Fits unit boot now accessOmitted (taken ++ [e]) ∧
      readEntries unit boot now.since.micros now.instant ending records (total unit boot now accessOmitted (taken ++ [e])) = .ok a := by
  have hmarked : marked (total unit boot now accessOmitted taken) true = { total unit boot now accessOmitted taken with truncated := true } := by
    simp [marked]
  rw [readEntries,Record.timestamp]
  constructor
  · intro h
    cases htime : r.time with
    | error undated => rw [htime] at h; cases h
    | ok t =>
    rw [htime,Except.mapError,ok_bind] at h
    split at h
    case isTrue hold =>
      cases h
      exact .inl ⟨t,rfl,Int.ofNat_lt.mp hold,rfl⟩
    case isFalse hrecent =>
    have hsince : now.since.micros ≤ t.micros := not_lt.mp fun hold => hrecent (Int.ofNat_lt.mpr hold)
    split at h
    case isTrue => cases h
    case isFalse hnow =>
    cases hidentity : identify unit boot r with
    | error e => rw [hidentity,error_bind] at h; cases h
    | ok _ =>
    rw [hidentity,ok_bind,length_entries_total] at h
    split at h
    case isTrue hfull =>
      cases h
      exact .inr (.inl ⟨⟨t,htime,hsince,not_lt.mp hnow⟩,rfl,hfull,hmarked.symm⟩)
    case isFalse hroom =>
    cases hentry : readEntry boot t r with
    | error e => rw [hentry,error_bind] at h; cases h
    | ok e =>
    have hsound : Sound unit boot now r e := ⟨t,htime,hsince,not_lt.mp hnow,hidentity,hentry⟩
    rw [hentry,ok_bind] at h
    split at h
    case isTrue hover =>
      cases h
      exact .inr (.inr (.inl ⟨e,hsound,hroom,overflow_iff.mp hover,by rw [add_total]; rfl⟩))
    case isFalse hfits =>
      rw [add_total] at h
      exact .inr (.inr (.inr ⟨e,hsound,hroom,not_not.mp fun hover => hfits (overflow_iff.mpr hover),h⟩))
  · rintro (⟨t,htime,hold,rfl⟩ | ⟨⟨t,htime,hsince,hnow⟩,hidentity,hfull,rfl⟩ | ⟨e,⟨t,htime,hsince,hnow,hidentity,hentry⟩,hroom,hover,rfl⟩ |
      ⟨e,⟨t,htime,hsince,hnow,hidentity,hentry⟩,hroom,hfits,h⟩)
    all_goals rw [htime,Except.mapError,ok_bind]
    · rw [if_pos (Int.ofNat_lt.mpr hold)]
      rfl
    all_goals rw [if_neg (not_lt.mpr (Int.ofNat_le.mpr hsince)),if_neg (not_lt.mpr hnow),hidentity,ok_bind,length_entries_total]
    · rw [if_pos hfull,hmarked]
      rfl
    all_goals rw [if_neg hroom,hentry,ok_bind]
    · rw [if_pos (overflow_iff.mpr hover),add_total]
      rfl
    · rw [if_neg fun hover => overflow_iff.mp hover hfits,add_total]
      exact h

theorem Leaves.cons {shown rest : List Record} {cut : Bool} (hsound : Sound unit boot now r e)
    (hfits : Fits unit boot now accessOmitted (taken ++ [e]))
    (h : Leaves unit boot now accessOmitted ending records (taken ++ [e]) shown rest es cut) :
    Leaves unit boot now accessOmitted ending (r :: records) taken (r :: shown) rest (e :: es) cut where
  records := congrArg (r :: ·) h.records
  sound := .cons hsound h.sound
  count := by simpa using h.count
  fits := by
    refine .inr ?_
    obtain rfl | hfits' := h.fits
    · exact hfits
    · simpa using hfits'
  stop := by simpa using h.stop

theorem Leaves.tail {shown rest : List Record} {cut : Bool}
    (h : Leaves unit boot now accessOmitted ending (r :: records) taken (r :: shown) rest (e :: es) cut) :
    Sound unit boot now r e ∧ taken.length ≠ maxEntries ∧ Fits unit boot now accessOmitted (taken ++ [e]) ∧
      Leaves unit boot now accessOmitted ending records (taken ++ [e]) shown rest es cut := by
  cases h.sound with
  | cons hsound hrest =>
    have hall : Fits unit boot now accessOmitted (taken ++ [e] ++ es) := by
      simpa using h.fits.resolve_left (List.cons_ne_nil e es)
    have hcount := h.count
    rw [List.length_append,List.length_cons] at hcount
    refine ⟨hsound,by omega,hall.of_append (by simp),(List.cons.inj h.records).2,hrest,?_,.inr hall,?_⟩
    · simpa using h.count
    · simpa using h.stop

/-- The loop answers exactly what the ceilings leave. -/
theorem readEntries_iff (hunit : validService unit = true) (hboot : id128 boot = true) (htaken : taken.length ≤ maxEntries) :
    readEntries unit boot now.since.micros now.instant ending records (total unit boot now accessOmitted taken) = .ok a ↔
      ∃ shown rest es cut, Leaves unit boot now accessOmitted ending records taken shown rest es cut ∧
        a = marked (total unit boot now accessOmitted (taken ++ es)) cut := by
  have hover {taken : List (Entry × Bool)} {r : Record} {e : Entry × Bool} (hsound : Sound unit boot now r e)
      (hfits : ¬Fits unit boot now accessOmitted (taken ++ [e])) :
      { total unit boot now accessOmitted (taken ++ [e]) with entries := taken.map (·.1), truncated := true } =
        marked (total unit boot now accessOmitted taken) true := by
    cases taken with
    | nil => exact absurd (fits_single hunit hboot hsound) hfits
    | cons first taken => simp [total,marked]
  induction records generalizing taken with
  | nil =>
    rw [readEntries]
    constructor
    · intro h
      cases hending : ending with
      | error code => rw [hending] at h; cases h
      | ok _ =>
        rw [hending] at h
        cases h
        exact ⟨[],[],[],false,⟨rfl,.nil,by simpa using htaken,.inl rfl,.done rfl⟩,by simp⟩
    · rintro ⟨shown,rest,es,cut,h,rfl⟩
      obtain ⟨rfl,rfl⟩ := List.append_eq_nil_iff.mp h.records.symm
      cases h.sound
      cases h.stop with
      | done hending =>
        rw [hending]
        simp [checked]
  | cons r records ih =>
    rw [readEntries_cons]
    constructor
    · have hstop {cut : Bool} (stop : Stop unit boot now accessOmitted ending taken (r :: records) cut) :
          Leaves unit boot now accessOmitted ending (r :: records) taken [] (r :: records) [] cut :=
        ⟨rfl,.nil,by simpa using htaken,.inl rfl,by simpa using stop⟩
      rintro (⟨t,htime,hold,rfl⟩ | ⟨hwithin,hidentity,hfull,rfl⟩ | ⟨e,hsound,hroom,hfits,rfl⟩ | ⟨e,hsound,hroom,hfits,h⟩)
      · exact ⟨[],_,[],false,hstop (.old htime hold),by simp⟩
      · exact ⟨[],_,[],true,hstop (.full hwithin hidentity hfull),by simp⟩
      · exact ⟨[],_,[],true,hstop (.oversized hsound hfits),by simpa using hover hsound hfits⟩
      · obtain ⟨shown,rest,es,cut,hleaves,rfl⟩ := (ih (by simp; omega)).mp h
        exact ⟨r :: shown,rest,e :: es,cut,hleaves.cons hsound hfits,by simp⟩
    · rintro ⟨shown,rest,es,cut,h,rfl⟩
      cases shown with
      | nil =>
        obtain rfl : r :: records = rest := h.records
        cases h.sound
        have hstop := h.stop
        rw [List.append_nil] at hstop ⊢
        cases hstop with
        | old htime hold => exact .inl ⟨_,htime,hold,by simp⟩
        | full hwithin hidentity hfull => exact .inr (.inl ⟨hwithin,hidentity,hfull,rfl⟩)
        | oversized hsound hfits =>
          by_cases hfull : taken.length = maxEntries
          · have hwithin := hsound.within
            obtain ⟨t,-,-,-,hidentity,-⟩ := hsound
            exact .inr (.inl ⟨hwithin,hidentity,hfull,rfl⟩)
          · exact .inr (.inr (.inl ⟨_,hsound,hfull,hfits,(hover hsound hfits).symm⟩))
      | cons r' shown =>
        obtain ⟨rfl,-⟩ := List.cons.inj h.records
        cases hes : es with
        | nil =>
          have := h.sound
          rw [hes] at this
          cases this
        | cons e es =>
          subst hes
          obtain ⟨hsound,hroom,hfits,hrest⟩ := h.tail
          refine .inr (.inr (.inr ⟨e,hsound,hroom,hfits,(ih (by simp; omega)).mpr ⟨shown,rest,es,cut,hrest,by simp⟩⟩))

end Loop

end ServiceJournal
end LocalPlane
