import LocalPlane.Utf8

/-!
# Text cut at a number of bytes

Encoded text that is cut is read, without the character that the cut ends in, as the longest
start of it that fits. Bytes that are cut before they are read end in a replacement where
the cut is inside a character, and the text is a start of the whole's unless that
replacement is kept and the character was a sound one.
-/

set_option linter.dupNamespace false

namespace LocalPlane
namespace Utf8

def size (text : List Char) : ℕ := (encode text).length

def charSize (c : Char) : ℕ := (String.utf8EncodeChar c).length

@[simp] theorem size_nil : size [] = 0 := rfl

@[simp] theorem size_cons (c : Char) (text : List Char) : size (c :: text) = charSize c + size text := by
  simp [size,charSize]

@[simp] theorem size_append (text more : List Char) : size (text ++ more) = size text + size more := by
  simp [size]

theorem charSize_replacement : charSize replacement = 3 := by decide

/-- The longest start of a text that fits. -/
def fit : ℕ → List Char → List Char
  | _,[] => []
  | n,c :: text => if charSize c ≤ n then c :: fit (n - charSize c) text else []

section Fit

theorem fit_prefix (n : ℕ) (text : List Char) : fit n text <+: text := by
  induction text generalizing n with
  | nil => exact List.prefix_rfl
  | cons c text ih =>
    rw [fit]
    split
    · exact List.cons_prefix_cons.mpr ⟨rfl,ih _⟩
    · exact List.nil_prefix

theorem size_fit (n : ℕ) (text : List Char) : size (fit n text) ≤ n := by
  induction text generalizing n with
  | nil => exact Nat.zero_le _
  | cons c text ih =>
    rw [fit]
    split
    · have := ih (n - charSize c)
      rw [size_cons]
      omega
    · exact Nat.zero_le _

theorem fit_append {n : ℕ} {text : List Char} (more : List Char) (h : size text ≤ n) :
    fit n (text ++ more) = text ++ fit (n - size text) more := by
  induction text generalizing n with
  | nil => simp
  | cons c text ih =>
    rw [size_cons] at h
    rw [List.cons_append,fit,if_pos (by omega),ih (by omega),size_cons,Nat.sub_sub]
    rfl

theorem fit_of_le {n : ℕ} {text : List Char} (h : size text ≤ n) : fit n text = text := by
  have := fit_append [] h
  simpa [fit] using this

/-- What does not fit stops what follows. -/
theorem fit_append_of_lt {n : ℕ} {text : List Char} (more : List Char) (h : n < size text) : fit n (text ++ more) = fit n text := by
  induction text generalizing n with
  | nil => cases h
  | cons c text ih =>
    rw [size_cons] at h
    simp only [List.cons_append,fit]
    split
    · rw [ih (by omega)]
    · rfl

end Fit

section Partial

variable {bytes more : List UInt8} {r : Reader}

/-- A character that is cut is an ill-formed part. -/
theorem units_partial {seen conts : List UInt8} {owed : List (ℕ × ℕ)} (h : List.Forall₂ Within conts owed) {k : ℕ} (hk : k < conts.length) :
    units ⟨seen,owed⟩ (conts.take k) = [none] := by
  induction h generalizing seen k with
  | nil => cases hk
  | @cons b range conts owed hb h ih =>
    cases k with
    | zero => simp [flush]
    | succ k =>
      have hk : k < conts.length := by simpa using hk
      have howed : owed ≠ [] := by
        rintro rfl
        cases h
        cases hk
      rw [List.take_succ_cons,units_cons,push_within rfl hb]
      cases owed with
      | nil => exact absurd rfl howed
      | cons next owed => exact ih hk

theorem units_take_spelled {c : Char} (h : Spelled bytes c) {k : ℕ} (hpos : 0 < k) (hk : k < bytes.length) :
    units idle (bytes.take k) = [none] := by
  obtain ⟨⟨lead,conts,owed,rfl,htails,hconts⟩,-⟩ := h
  cases k with
  | zero => cases hpos
  | succ k =>
    have hk : k < conts.length := by simpa using hk
    rw [List.take_succ_cons,units_cons,show push idle lead = complete [lead] owed by simp [push,idle,start,htails]]
    cases hconts with
    | nil => cases hk
    | cons hb hconts => exact units_partial (.cons hb hconts) hk

theorem charSize_pos (c : Char) : 0 < charSize c := by
  obtain ⟨⟨lead,conts,owed,h,-⟩,-⟩ := spelled_encodeChar c
  simp [charSize,h]

/-- Encoded text that is cut is read as the start of it that fits. -/
theorem decodeIgnore_take (n : ℕ) (text : List Char) : decodeIgnore ((encode text).take n) = fit n text := by
  induction text generalizing n with
  | nil => simp [decodeIgnore,fit]
  | cons c text ih =>
    rw [encode_cons,List.take_append,fit]
    split
    case isTrue h =>
      rw [List.take_of_length_le h]
      rw [decodeIgnore,units_spelled (spelled_encodeChar c),List.filterMap_cons_some (by rfl)]
      exact congrArg _ (ih _)
    case isFalse h =>
      have hlt : n < (String.utf8EncodeChar c).length := Nat.lt_of_not_le h
      rw [Nat.sub_eq_zero_of_le (Nat.le_of_lt hlt),List.take_zero,List.append_nil]
      cases n with
      | zero => simp [decodeIgnore]
      | succ n =>
        rw [decodeIgnore,units_take_spelled (spelled_encodeChar c) (Nat.succ_pos n) hlt]
        rfl

/-- A byte that begins a character is read as if what stands before it ended there. -/
theorem units_start (hr : Standing r) {lead : UInt8} (hlead : (tails lead.toNat).isSome = true) :
    units r (bytes ++ lead :: more) = units r bytes ++ units idle (lead :: more) := by
  have hpush : ∀ {r : Reader}, Standing r → push r lead = (flush r ++ (start lead).1,(start lead).2) := by
    intro r hr
    cases hr with
    | idle => rfl
    | @inside first conts used next owed htails hconts =>
      have hout : ¬Within lead next := by
        intro hwithin
        have hrange := tails_range htails next (by simp)
        have h1 := hwithin.1
        have h2 := hwithin.2
        simp only [tails] at hlead
        repeat' (first | rw [if_neg (by omega)] at hlead)
        cases hlead
      exact push_without rfl hout
  rw [units_append,units_cons,hpush (hr.after bytes),units_cons,show push idle lead = start lead from rfl]
  simp only [List.append_assoc,show units r bytes = emitted r bytes ++ flush (after r bytes) from rfl]

end Partial

section Cut

variable {bytes : List UInt8} {r : Reader}

theorem start_cases (b : UInt8) : start b = ([none],idle) ∨
    (∃ c, start b = ([some c],idle) ∧ String.utf8EncodeChar c = [b]) ∨ ∃ next owed, start b = ([],⟨[b],next :: owed⟩) := by
  unfold start
  split
  · exact .inl rfl
  · next owed htails =>
    cases owed with
    | nil => exact .inr (.inl ⟨_,rfl,encodeChar_of_tails htails .nil⟩)
    | cons next owed => exact .inr (.inr ⟨next,owed,rfl⟩)

/-- A byte goes on with the character under way, or ends it ill-formed and starts anew. -/
theorem push_cases (hr : Standing r) (b : UInt8) :
    (∃ c, push r b = ([some c],idle) ∧ String.utf8EncodeChar c = r.seen ++ [b]) ∨
    (∃ next owed, push r b = ([],⟨r.seen ++ [b],next :: owed⟩)) ∨ push r b = (flush r ++ (start b).1,(start b).2) := by
  cases hr with
  | idle => exact .inr (.inr rfl)
  | @inside lead conts used next owed htails hconts =>
    by_cases hb : Within b next
    · have hpush : push ⟨lead :: conts,next :: owed⟩ b = complete (lead :: conts ++ [b]) owed := push_within rfl hb
      rw [hpush]
      cases owed with
      | nil => exact .inl ⟨_,rfl,encodeChar_of_tails htails (List.rel_append hconts (.cons hb .nil))⟩
      | cons next' owed => exact .inr (.inl ⟨next',owed,rfl⟩)
    · exact .inr (.inr (push_without rfl hb))

/-- What a reader has seen of a character stands at the end, and what was read is what stands before it. -/
theorem exists_front_of_standing (hr : Standing r) (bytes : List UInt8) :
    (∃ front, bytes = front ++ (after r bytes).seen ∧ emitted r bytes = units r front) ∨
      ((after r bytes).seen = r.seen ++ bytes ∧ emitted r bytes = []) := by
  induction bytes generalizing r with
  | nil => exact .inr ⟨by simp,rfl⟩
  | cons b bytes ih =>
    obtain ⟨front,hbytes,hread⟩ | ⟨hseen,hread⟩ := ih (hr.push b)
    · refine .inl ⟨b :: front,?_,?_⟩
      · rw [List.cons_append,after]
        exact congrArg _ hbytes
      · rw [emitted,hread,units_cons]
    · simp only [after,emitted,hread,List.append_nil,hseen]
      have hdone (h : (push r b).2 = idle) : ∃ front, b :: bytes = front ++ ((push r b).2.seen ++ bytes) ∧ (push r b).1 = units r front := by
        refine ⟨[b],by rw [h]; rfl,?_⟩
        rw [units_cons,h]
        simp
      obtain ⟨c,hpush,-⟩ | ⟨next,owed,hpush⟩ | hpush := push_cases hr b
      · exact .inl (hdone (by rw [hpush]))
      · exact .inr (by simp [hpush])
      · obtain hstart | ⟨c,hstart,-⟩ | ⟨next,owed,hstart⟩ := start_cases b
        · exact .inl (hdone (by rw [hpush,hstart]))
        · exact .inl (hdone (by rw [hpush,hstart]))
        · refine .inl ⟨[],?_,?_⟩
          · rw [hpush,hstart]
            rfl
          · rw [hpush,hstart,units_nil,List.append_nil]

theorem exists_front (bytes : List UInt8) : ∃ front, bytes = front ++ (after idle bytes).seen ∧ emitted idle bytes = units idle front := by
  obtain h | ⟨hseen,hread⟩ := exists_front_of_standing .idle bytes
  · exact h
  · exact ⟨[],by rw [hseen]; rfl,hread⟩

/-- The text of what was read. -/
def replaced (units : List (Option Char)) : List Char := units.map (·.getD replacement)

theorem length_tails {lead : ℕ} {owed : List (ℕ × ℕ)} (h : tails lead = some owed) : owed.length ≤ 3 := by
  rcases tails_forms h with ⟨_,rfl⟩ | ⟨_,_,rfl⟩ | ⟨low,high,rfl,_⟩ | ⟨low,high,rfl,_⟩ <;> simp

theorem length_seen (hr : Standing r) : r.seen.length + r.owed.length ≤ 4 := by
  cases hr with
  | idle => decide
  | inside htails hconts =>
    have := length_tails htails
    have := hconts.length_eq
    simp only [List.length_append,List.length_cons] at *
    omega

theorem size_start (b : UInt8) : 1 ≤ size (replaced (start b).1) + (start b).2.seen.length := by
  obtain h | ⟨c,h,hc⟩ | ⟨next,owed,h⟩ := start_cases b
  · simp [h,replaced,charSize_replacement,idle]
  · simp [h,replaced,charSize,hc]
  · simp [h]

theorem size_push (hr : Standing r) (b : UInt8) : r.seen.length + 1 ≤ size (replaced (push r b).1) + (push r b).2.seen.length := by
  obtain ⟨c,hpush,hc⟩ | ⟨next,owed,hpush⟩ | hpush := push_cases hr b
  · simp [hpush,replaced,charSize,hc]
  · simp [hpush]
  · have hstart := size_start b
    have hseen : r.seen.length ≤ size (replaced (flush r)) := by
      cases hr with
      | idle => simp [idle]
      | inside htails hconts =>
        have := length_seen (.inside htails hconts)
        simp only [List.length_cons] at this
        simp [flush,replaced,charSize_replacement]
        omega
    rw [hpush]
    simp only [replaced,List.map_append,size_append] at hstart hseen ⊢
    omega

/-- Replacing ill-formed parts makes nothing shorter. -/
theorem size_emitted (hr : Standing r) (bytes : List UInt8) :
    r.seen.length + bytes.length ≤ size (replaced (emitted r bytes)) + (after r bytes).seen.length := by
  induction bytes generalizing r with
  | nil => simp [replaced]
  | cons b bytes ih =>
    have hstep := size_push hr b
    have hrest := ih (hr.push b)
    simp only [emitted,after,replaced,List.map_append,size_append,List.length_cons] at hstep hrest ⊢
    omega

/-- The cut stands behind three bytes of a four-byte character, and all before it is as long as its text. -/
def SplitCharacter (n : ℕ) (bytes : List UInt8) : Prop :=
  ∃ front c rest, bytes = front ++ String.utf8EncodeChar c ++ rest ∧ charSize c = 4 ∧ front.length + 3 = n ∧
    size (decodeReplace front) = front.length

theorem units_append_char (front rest : List UInt8) (c : Char) :
    units idle (front ++ String.utf8EncodeChar c ++ rest) = units idle front ++ some c :: units idle rest := by
  have hspelled := spelled_encodeChar c
  obtain ⟨⟨lead,conts,owed,hbytes,htails,-⟩,-⟩ := hspelled
  rw [hbytes,List.append_assoc,List.cons_append,units_start .idle (by rw [htails]; rfl),← List.cons_append,← hbytes,units_spelled (spelled_encodeChar c)]

theorem not_prefix_of_split {n : ℕ} (h : SplitCharacter n bytes) : ¬fit n (decodeReplace (bytes.take n)) <+: decodeReplace bytes := by
  obtain ⟨front,c,rest,rfl,hsize,hfront,hsound⟩ := h
  have hraw : (front ++ String.utf8EncodeChar c ++ rest).take n = front ++ (String.utf8EncodeChar c).take 3 := by
    rw [List.append_assoc,← hfront,List.take_length_add_append,List.take_append_of_le_length (by rw [← charSize,hsize]; decide)]
  have hcut : decodeReplace (front ++ (String.utf8EncodeChar c).take 3) = decodeReplace front ++ [replacement] := by
    have hpart := units_take_spelled (spelled_encodeChar c) (k := 3) (by decide) (by rw [← charSize,hsize]; decide)
    obtain ⟨⟨lead,conts,owed,hbytes,htails,-⟩,-⟩ := spelled_encodeChar c
    rw [hbytes,List.take_succ_cons] at hpart ⊢
    rw [decodeReplace,units_start .idle (by rw [htails]; rfl),hpart,List.map_append]
    rfl
  have hfit : fit n (decodeReplace front ++ [replacement]) = decodeReplace front ++ [replacement] := by
    refine fit_of_le ?_
    rw [size_append,size_cons,charSize_replacement,size_nil,hsound]
    omega
  rw [hraw,hcut,hfit,decodeReplace,decodeReplace,units_append_char,List.map_append]
  intro hprefix
  have hhead := (List.prefix_append_right_inj _).mp hprefix
  rw [List.map_cons,List.cons_prefix_cons] at hhead
  have hc : c = replacement := hhead.1.symm
  rw [hc,charSize_replacement] at hsize
  cases hsize

/-- A start of a text with more behind it is a start of the whole, and not the whole. -/
theorem prefix_of_more {shown front more whole : List Char} (hwhole : whole = front ++ more) (hmore : more ≠ []) (hstart : shown <+: front) :
    shown <+: whole ∧ shown ≠ whole := by
  refine ⟨hstart.trans (hwhole ▸ List.prefix_append ..),fun hall => ?_⟩
  have hle := hstart.length_le
  rw [hall,hwhole,List.length_append] at hle
  have hpos := List.length_pos_iff.mpr hmore
  omega

/-- The byte behind the cut completes the character that the cut left behind three of its bytes. -/
theorem splitCharacter_of_within {n : ℕ} {front conts rest : List UInt8} {lead b : UInt8} {used : List (ℕ × ℕ)} {next : ℕ × ℕ}
    (htails : tails lead.toNat = some (used ++ [next])) (hconts : List.Forall₂ Within conts used) (hb : Within b next)
    (hbytes : bytes = front ++ lead :: conts ++ b :: rest) (hlength : conts.length = 2) (hn : front.length + 3 = n)
    (hsize : size (decodeReplace front) = front.length) : SplitCharacter n bytes := by
  have hchar := encodeChar_of_tails htails (List.rel_append hconts (.cons hb .nil))
  refine ⟨front,Char.ofNat (value (lead :: (conts ++ [b]))),rest,?_,?_,hn,hsize⟩
  · rw [hchar,hbytes]
    simp
  · rw [charSize,hchar]
    simp only [List.length_cons,List.length_append,List.length_nil]
    omega

/-- The byte behind the cut does not go on with the character, so the character is replaced in the whole as well. -/
theorem replacement_start (front : List Char) (b : UInt8) (rest : List UInt8) :
    front ++ [replacement] <+: front ++ replaced (none :: units idle (b :: rest)) ∧
      front ++ [replacement] ≠ front ++ replaced (none :: units idle (b :: rest)) := by
  refine ⟨(List.prefix_append_right_inj _).mpr (List.cons_prefix_cons.mpr ⟨rfl,List.nil_prefix⟩),fun hall => ?_⟩
  have hrest := (List.cons.inj (List.append_cancel_left hall)).2
  have hmore : units idle (b :: rest) ≠ [] := units_ne_nil (.inr (by simp))
  exact hmore (List.map_eq_nil_iff.mp hrest.symm)

/-- What is shown of bytes that were cut is not all of them, and is a start of them unless a sound character was split. -/
theorem cut_cases {n : ℕ} (h : n < bytes.length) :
    (fit n (decodeReplace (bytes.take n)) <+: decodeReplace bytes ∨ SplitCharacter n bytes) ∧
      fit n (decodeReplace (bytes.take n)) ≠ decodeReplace bytes := by
  obtain ⟨front,hfront,hread⟩ := exists_front (bytes.take n)
  have hr : Standing (after idle (bytes.take n)) := Standing.idle.after _
  have hlength : (bytes.take n).length = n := List.length_take_of_le (Nat.le_of_lt h)
  have hlong : n ≤ size (decodeReplace front) + (after idle (bytes.take n)).seen.length := by
    have := size_emitted .idle (bytes.take n)
    rw [hread,hlength] at this
    simpa [idle,decodeReplace,replaced] using this
  have hcut : decodeReplace (bytes.take n) = decodeReplace front ++ replaced (flush (after idle (bytes.take n))) := by
    rw [decodeReplace,units,hread,List.map_append]
    rfl
  have hwhole : decodeReplace bytes = decodeReplace front ++ replaced (units (after idle (bytes.take n)) (bytes.drop n)) := by
    have hsplit : bytes = bytes.take n ++ bytes.drop n := (List.take_append_drop n bytes).symm
    conv_lhs => rw [hsplit]
    rw [decodeReplace,units_append,hread,List.map_append]
    rfl
  have hdrop : bytes.drop n ≠ [] := by
    rw [ne_eq,List.drop_eq_nil_iff]
    exact Nat.not_le_of_lt h
  have hmore : replaced (units (after idle (bytes.take n)) (bytes.drop n)) ≠ [] := by
    simpa [replaced] using units_ne_nil (.inr hdrop)
  have hshort (hstart : fit n (decodeReplace (bytes.take n)) <+: decodeReplace front) :
      (fit n (decodeReplace (bytes.take n)) <+: decodeReplace bytes ∨ SplitCharacter n bytes) ∧
        fit n (decodeReplace (bytes.take n)) ≠ decodeReplace bytes :=
    (prefix_of_more hwhole hmore hstart).imp_left .inl
  generalize after idle (bytes.take n) = r at *
  cases hr with
  | idle =>
    refine hshort ?_
    rw [hcut]
    simpa [replaced] using fit_prefix n (decodeReplace front)
  | @inside lead conts used next owed htails hconts =>
    have hseen := length_seen (Standing.inside htails hconts)
    have hflush : replaced (flush ⟨lead :: conts,next :: owed⟩) = [replacement] := rfl
    rw [hflush] at hcut
    by_cases hfits : size (decodeReplace front) + 3 ≤ n
    · -- the replacement is kept, so all but the last byte of a four-byte character was seen
      have howed : owed = [] := by
        simp only [List.length_cons] at hseen hlong
        exact List.length_eq_zero_iff.mp (by omega)
      subst howed
      have hshown : fit n (decodeReplace (bytes.take n)) = decodeReplace front ++ [replacement] := by
        rw [hcut]
        exact fit_of_le (by simpa [charSize_replacement] using hfits)
      cases hnext : bytes.drop n with
      | nil => exact absurd hnext hdrop
      | cons b rest =>
        rw [hnext] at hwhole
        by_cases hb : Within b next
        · have hsplit : SplitCharacter n bytes := by
            have htake : front.length + (conts.length + 1) = n := by
              rw [hfront,List.length_append] at hlength
              exact hlength
            have hbytes : bytes = front ++ lead :: conts ++ b :: rest := by rw [← hfront,← hnext,List.take_append_drop]
            simp only [List.length_cons,List.length_nil] at hseen hlong
            exact splitCharacter_of_within htails hconts hb hbytes (by omega) (by omega) (by omega)
          exact ⟨.inr hsplit,fun hall => not_prefix_of_split hsplit (hall ▸ List.prefix_rfl)⟩
        · have hpush : units ⟨lead :: conts,[next]⟩ (b :: rest) = none :: units idle (b :: rest) := by
            rw [units_cons,push_without rfl hb,units_cons]
            rfl
          rw [hpush] at hwhole
          rw [hshown,hwhole]
          exact (replacement_start (decodeReplace front) b rest).imp_left .inl
    · refine hshort ?_
      rw [hcut]
      by_cases hover : n < size (decodeReplace front)
      · rw [fit_append_of_lt _ hover]
        exact fit_prefix ..
      · have hall : fit n (decodeReplace front ++ [replacement]) = decodeReplace front := by
          rw [fit_append _ (by omega),fit,if_neg (by rw [charSize_replacement]; omega),List.append_nil]
        simp [hall]

/-- What is shown is a start of the text exactly where the cut splits no character that shows. -/
theorem shown_prefix_iff (n : ℕ) (bytes : List UInt8) :
    fit n (decodeReplace (bytes.take n)) <+: decodeReplace bytes ↔ ¬SplitCharacter n bytes := by
  refine ⟨fun hprefix hsplit => not_prefix_of_split hsplit hprefix,fun hsound => ?_⟩
  by_cases h : n < bytes.length
  · exact (cut_cases h).1.resolve_right hsound
  · rw [List.take_of_length_le (Nat.le_of_not_lt h)]
    exact fit_prefix ..

/-- All is shown exactly where neither cut takes anything. -/
theorem shown_all_iff (n : ℕ) (bytes : List UInt8) :
    fit n (decodeReplace (bytes.take n)) = decodeReplace bytes ↔ bytes.length ≤ n ∧ size (decodeReplace (bytes.take n)) ≤ n := by
  constructor
  · intro hall
    by_cases h : n < bytes.length
    · exact absurd hall (cut_cases h).2
    · have hle := Nat.le_of_not_lt h
      rw [List.take_of_length_le hle] at hall ⊢
      exact ⟨hle,hall ▸ size_fit ..⟩
  · rintro ⟨hle,hsize⟩
    rw [List.take_of_length_le hle] at hsize ⊢
    exact fit_of_le hsize

end Cut

end Utf8
end LocalPlane
