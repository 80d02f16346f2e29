import Mathlib.Data.Nat.Notation
import Mathlib.Data.List.Forall2
import Mathlib.Tactic.Common

/-!
# Reading UTF-8 a byte at a time

A reader stands between characters or inside one, with the bytes of it that it has seen and
the ranges the bytes to come must lie in. Bytes that cannot be continued to a character are
one ill-formed part, as long as the longest start of a character in them. What the reader
makes of an ill-formed part is the caller's: it is replaced, dropped or refused.
-/

set_option linter.dupNamespace false

namespace LocalPlane
namespace Utf8

/-- The ranges of the bytes that follow a first byte, where it is one. -/
def tails (lead : ℕ) : Option (List (ℕ × ℕ)) :=
  if lead < 0x80 then some []
  else if 0xC2 ≤ lead ∧ lead ≤ 0xDF then some [(0x80,0xBF)]
  else if lead = 0xE0 then some [(0xA0,0xBF),(0x80,0xBF)]
  else if lead = 0xED then some [(0x80,0x9F),(0x80,0xBF)]
  else if 0xE1 ≤ lead ∧ lead ≤ 0xEF then some [(0x80,0xBF),(0x80,0xBF)]
  else if lead = 0xF0 then some [(0x90,0xBF),(0x80,0xBF),(0x80,0xBF)]
  else if 0xF1 ≤ lead ∧ lead ≤ 0xF3 then some [(0x80,0xBF),(0x80,0xBF),(0x80,0xBF)]
  else if lead = 0xF4 then some [(0x80,0x8F),(0x80,0xBF),(0x80,0xBF)]
  else none

/-- The code point that the bytes of one character spell. -/
def value : List UInt8 → ℕ
  | [a] => a.toNat
  | [a,b] => a.toNat % 32 * 64 + b.toNat % 64
  | [a,b,c] => a.toNat % 16 * 4096 + b.toNat % 64 * 64 + c.toNat % 64
  | [a,b,c,d] => a.toNat % 8 * 262144 + b.toNat % 64 * 4096 + c.toNat % 64 * 64 + d.toNat % 64
  | _ => 0

/-- The byte lies in the range. -/
def Within (b : UInt8) (range : ℕ × ℕ) : Prop := range.1 ≤ b.toNat ∧ b.toNat ≤ range.2

instance (b : UInt8) (range : ℕ × ℕ) : Decidable (Within b range) := inferInstanceAs (Decidable (_ ∧ _))

/-- The bytes seen of a character under way, and what it is still owed. -/
structure Reader where
  seen : List UInt8
  owed : List (ℕ × ℕ)
  deriving DecidableEq

def idle : Reader := ⟨[],[]⟩

/-- A character that is owed nothing is read; ill-formed parts are `none`. -/
def complete (seen : List UInt8) : List (ℕ × ℕ) → List (Option Char) × Reader
  | [] => ([some (Char.ofNat (value seen))],idle)
  | r :: owed => ([],⟨seen,r :: owed⟩)

def start (b : UInt8) : List (Option Char) × Reader :=
  match tails b.toNat with
  | none => ([none],idle)
  | some owed => complete [b] owed

def push (r : Reader) (b : UInt8) : List (Option Char) × Reader :=
  match r.owed with
  | [] => start b
  | next :: owed => if Within b next then complete (r.seen ++ [b]) owed else (none :: (start b).1,(start b).2)

/-- A character that the end cuts off is an ill-formed part. -/
def flush (r : Reader) : List (Option Char) := if r.owed = [] then [] else [none]

def emitted (r : Reader) : List UInt8 → List (Option Char)
  | [] => []
  | b :: bytes => (push r b).1 ++ emitted (push r b).2 bytes

def after (r : Reader) : List UInt8 → Reader
  | [] => r
  | b :: bytes => after (push r b).2 bytes

def units (r : Reader) (bytes : List UInt8) : List (Option Char) := emitted r bytes ++ flush (after r bytes)

def replacement : Char := Char.ofNat 0xFFFD

/-- `errors="replace"`, `errors="ignore"` and `errors="strict"`. -/
def decodeReplace (bytes : List UInt8) : List Char := (units idle bytes).map (·.getD replacement)

def decodeIgnore (bytes : List UInt8) : List Char := (units idle bytes).filterMap id

def decodeStrict (bytes : List UInt8) : Option (List Char) :=
  if (units idle bytes).all Option.isSome then some (decodeIgnore bytes) else none

def encode (text : List Char) : List UInt8 := text.flatMap String.utf8EncodeChar

@[simp] theorem emitted_nil (r : Reader) : emitted r [] = [] := rfl

@[simp] theorem after_nil (r : Reader) : after r [] = r := rfl

@[simp] theorem flush_idle : flush idle = [] := rfl

@[simp] theorem units_nil (r : Reader) : units r [] = flush r := rfl

@[simp] theorem encode_nil : encode [] = [] := rfl

@[simp] theorem encode_cons (c : Char) (text : List Char) : encode (c :: text) = String.utf8EncodeChar c ++ encode text := by
  simp [encode]

@[simp] theorem encode_append (text more : List Char) : encode (text ++ more) = encode text ++ encode more := by
  simp [encode]

variable {r : Reader} {b : UInt8} {bytes more : List UInt8}

/-- A byte that is owed goes on with the character under way. -/
theorem push_within {next : ℕ × ℕ} {owed : List (ℕ × ℕ)} (howed : r.owed = next :: owed) (hb : Within b next) :
    push r b = complete (r.seen ++ [b]) owed := by
  simp only [push,howed]
  exact if_pos hb

/-- A byte that is not owed starts anew. -/
theorem push_without {next : ℕ × ℕ} {owed : List (ℕ × ℕ)} (howed : r.owed = next :: owed) (hb : ¬Within b next) :
    push r b = (none :: (start b).1,(start b).2) := by
  simp only [push,howed]
  exact if_neg hb

theorem units_cons : units r (b :: bytes) = (push r b).1 ++ units (push r b).2 bytes := by
  simp [units,emitted,after]

@[simp] theorem after_append : after r (bytes ++ more) = after (after r bytes) more := by
  induction bytes generalizing r with
  | nil => rfl
  | cons b bytes ih => exact ih

@[simp] theorem emitted_append : emitted r (bytes ++ more) = emitted r bytes ++ emitted (after r bytes) more := by
  induction bytes generalizing r with
  | nil => rfl
  | cons b bytes ih => simp [emitted,after,ih]

/-- Reading on is reading from where the reader stands. -/
theorem units_append : units r (bytes ++ more) = emitted r bytes ++ units (after r bytes) more := by
  simp [units]

section Standing

/-- Where a reader can stand: between characters, or after a start that its first byte can be continued by. -/
inductive Standing : Reader → Prop
  | idle : Standing idle
  | inside {lead : UInt8} {conts : List UInt8} {used : List (ℕ × ℕ)} {next : ℕ × ℕ} {owed : List (ℕ × ℕ)}
      (htails : tails lead.toNat = some (used ++ next :: owed)) (hconts : List.Forall₂ Within conts used) :
      Standing ⟨lead :: conts,next :: owed⟩

/-- The four lengths of a character; only the byte after the first one has a range of its own. -/
theorem tails_forms {lead : ℕ} {owed : List (ℕ × ℕ)} (h : tails lead = some owed) :
    (lead < 0x80 ∧ owed = []) ∨ (0xC2 ≤ lead ∧ lead ≤ 0xDF ∧ owed = [(0x80,0xBF)]) ∨
    (∃ low high, owed = [(low,high),(0x80,0xBF)] ∧ 0xE0 ≤ lead ∧ lead ≤ 0xEF ∧ 0x80 ≤ low ∧ high ≤ 0xBF ∧
      (lead = 0xE0 → low = 0xA0) ∧ (lead = 0xED → high = 0x9F)) ∨
    ∃ low high, owed = [(low,high),(0x80,0xBF),(0x80,0xBF)] ∧ 0xF0 ≤ lead ∧ lead ≤ 0xF4 ∧ 0x80 ≤ low ∧ high ≤ 0xBF ∧
      (lead = 0xF0 → low = 0x90) ∧ (lead = 0xF4 → high = 0x8F) := by
  unfold tails at h
  split at h
  · next hone =>
    cases h
    exact .inl ⟨hone,rfl⟩
  split at h
  · next htwo =>
    cases h
    exact .inr (.inl ⟨htwo.1,htwo.2,rfl⟩)
  iterate 3
    split at h
    · cases h
      exact .inr (.inr (.inl ⟨_,_,rfl,by omega⟩))
  iterate 3
    split at h
    · cases h
      exact .inr (.inr (.inr ⟨_,_,rfl,by omega⟩))
  cases h

theorem tails_range {lead : ℕ} {owed : List (ℕ × ℕ)} (h : tails lead = some owed) : ∀ range ∈ owed, 0x80 ≤ range.1 ∧ range.2 ≤ 0xBF := by
  rcases tails_forms h with ⟨_,rfl⟩ | ⟨_,_,rfl⟩ | ⟨low,high,rfl,_,_,hlow,hhigh,_⟩ | ⟨low,high,rfl,_,_,hlow,hhigh,_⟩ <;>
    simp [*]

theorem Standing.complete {lead : UInt8} {conts : List UInt8} {used owed : List (ℕ × ℕ)}
    (htails : tails lead.toNat = some (used ++ owed)) (hconts : List.Forall₂ Within conts used) :
    Standing (Utf8.complete (lead :: conts) owed).2 := by
  cases owed with
  | nil => exact .idle
  | cons next owed => exact .inside htails hconts

theorem Standing.start (b : UInt8) : Standing (start b).2 := by
  unfold Utf8.start
  split
  · exact .idle
  · next owed h => exact @Standing.complete b [] [] owed h .nil

theorem Standing.push {r : Reader} (h : Standing r) (b : UInt8) : Standing (push r b).2 := by
  cases h with
  | idle => exact Standing.start b
  | @inside lead conts used next owed htails hconts =>
    simp only [Utf8.push]
    split
    · next hb =>
      have htails' : tails lead.toNat = some ((used ++ [next]) ++ owed) := by simpa using htails
      exact Standing.complete htails' (List.rel_append hconts (.cons hb .nil))
    · exact Standing.start b

theorem Standing.after {r : Reader} (h : Standing r) (bytes : List UInt8) : Standing (after r bytes) := by
  induction bytes generalizing r with
  | nil => exact h
  | cons b bytes ih => exact ih (h.push b)

end Standing

section Ascii

theorem start_ascii (hb : b.toNat < 0x80) : start b = ([some (Char.ofNat b.toNat)],idle) := by
  simp [start,tails,hb,complete,value]

/-- An ASCII byte is a character wherever the reader stands; what was under way is ill-formed. -/
theorem push_ascii (hr : Standing r) (hb : b.toNat < 0x80) : push r b = (flush r ++ [some (Char.ofNat b.toNat)],idle) := by
  cases hr with
  | idle => exact start_ascii hb
  | @inside lead conts used next owed htails hconts =>
    have hlo := tails_range htails next (by simp)
    have hout : ¬Within b next := fun h => by have := h.1; omega
    rw [push_without rfl hout,start_ascii hb]
    rfl

/-- What stands before an ASCII byte is read as if it ended there. -/
theorem units_ascii (hr : Standing r) (hb : b.toNat < 0x80) :
    units r (bytes ++ b :: more) = units r bytes ++ some (Char.ofNat b.toNat) :: units idle more := by
  rw [units_append,units_cons,push_ascii (hr.after bytes) hb]
  simp [units]

end Ascii

section Encoding

/-- The bytes spell one character. -/
structure Spelled (bytes : List UInt8) (c : Char) : Prop where
  tails : ∃ lead conts owed, bytes = lead :: conts ∧ tails lead.toNat = some owed ∧ List.Forall₂ Within conts owed
  value : value bytes = c.toNat

theorem units_complete {seen conts : List UInt8} {owed : List (ℕ × ℕ)} (h : List.Forall₂ Within conts owed) :
    (complete seen owed).1 ++ units (complete seen owed).2 (conts ++ more) =
      some (Char.ofNat (value (seen ++ conts))) :: units idle more := by
  induction h generalizing seen with
  | nil => simp [complete]
  | @cons b range conts owed hb _ ih =>
    show units ⟨seen,range :: owed⟩ (b :: (conts ++ more)) = _
    rw [units_cons,push_within rfl hb,ih,List.append_assoc]
    rfl

theorem units_spelled {c : Char} (h : Spelled bytes c) : units idle (bytes ++ more) = some c :: units idle more := by
  obtain ⟨⟨lead,conts,owed,rfl,htails,hconts⟩,hvalue⟩ := h
  have hchar : Char.ofNat (value (lead :: conts)) = c := by rw [hvalue,Char.ofNat_toNat]
  rw [List.cons_append,units_cons,← hchar,show push idle lead = complete [lead] owed by simp [push,idle,start,htails]]
  exact units_complete hconts

theorem toNat_ofNat {n : ℕ} (h : n < 256) : (UInt8.ofNat n).toNat = n := by rw [UInt8.toNat_ofNat']; omega

theorem spelled_encodeChar (c : Char) : Spelled (String.utf8EncodeChar c) c := by
  have hvalid : c.toNat < 0xD800 ∨ 0xDFFF < c.toNat ∧ c.toNat < 0x110000 := c.valid
  have htoNat : c.val.toNat = c.toNat := rfl
  have hlast := toNat_ofNat (n := c.toNat % 64 + 128) (by omega)
  have hmiddle := toNat_ofNat (n := c.toNat / 64 % 64 + 128) (by omega)
  simp only [String.utf8EncodeChar,htoNat]
  split
  · next h1 =>
    have ha := toNat_ofNat (n := c.toNat) (by omega)
    exact ⟨⟨_,[],[],rfl,by simp only [ha,tails]; rw [if_pos (by omega)],.nil⟩,ha⟩
  split
  · next h1 h2 =>
    have ha := toNat_ofNat (n := c.toNat / 64 % 32 + 192) (by omega)
    refine ⟨⟨_,_,[(0x80,0xBF)],rfl,?_,.cons (by simp only [Within,hlast]; omega) .nil⟩,by simp only [value,ha,hlast]; omega⟩
    simp only [ha,tails]
    rw [if_neg (by omega),if_pos (by omega)]
  split
  · next h1 h2 h3 =>
    have ha := toNat_ofNat (n := c.toNat / 4096 % 16 + 224) (by omega)
    have hsecond : ∃ range, tails (c.toNat / 4096 % 16 + 224) = some [range,(0x80,0xBF)] ∧
        range.1 ≤ c.toNat / 64 % 64 + 128 ∧ c.toNat / 64 % 64 + 128 ≤ range.2 := by
      simp only [tails]
      rw [if_neg (by omega),if_neg (by omega)]
      split
      · exact ⟨_,rfl,by simp only; omega⟩
      split
      · exact ⟨_,rfl,by simp only; omega⟩
      · exact ⟨_,if_pos (by omega),by simp only; omega⟩
    obtain ⟨range,htails,hrange⟩ := hsecond
    exact ⟨⟨_,_,_,rfl,by rw [ha]; exact htails,.cons (by simp only [Within,hmiddle]; exact hrange)
      (.cons (by simp only [Within,hlast]; omega) .nil)⟩,by simp only [value,ha,hmiddle,hlast]; omega⟩
  · next h1 h2 h3 =>
    have ha := toNat_ofNat (n := c.toNat / 262144 % 8 + 240) (by omega)
    have hb := toNat_ofNat (n := c.toNat / 4096 % 64 + 128) (by omega)
    have hsecond : ∃ range, tails (c.toNat / 262144 % 8 + 240) = some [range,(0x80,0xBF),(0x80,0xBF)] ∧
        range.1 ≤ c.toNat / 4096 % 64 + 128 ∧ c.toNat / 4096 % 64 + 128 ≤ range.2 := by
      simp only [tails]
      rw [if_neg (by omega),if_neg (by omega),if_neg (by omega),if_neg (by omega),if_neg (by omega)]
      split
      · exact ⟨_,rfl,by simp only; omega⟩
      split
      · exact ⟨_,rfl,by simp only; omega⟩
      · exact ⟨_,if_pos (by omega),by simp only; omega⟩
    obtain ⟨range,htails,hrange⟩ := hsecond
    exact ⟨⟨_,_,_,rfl,by rw [ha]; exact htails,.cons (by simp only [Within,hb]; exact hrange)
      (.cons (by simp only [Within,hmiddle]; omega) (.cons (by simp only [Within,hlast]; omega) .nil))⟩,
      by simp only [value,ha,hb,hmiddle,hlast]; omega⟩

/-- What is encoded is read back. -/
theorem units_encode (text : List Char) (bytes : List UInt8) : units idle (encode text ++ bytes) = text.map some ++ units idle bytes := by
  induction text with
  | nil => rfl
  | cons c text ih => rw [encode_cons,List.append_assoc,units_spelled (spelled_encodeChar c),ih]; rfl

theorem ofNat_eq {n : ℕ} {a : UInt8} (h : n = a.toNat) : UInt8.ofNat n = a := by rw [h,UInt8.ofNat_toNat]

theorem charOf_val {n : ℕ} (h : n < 0xD800 ∨ 0xDFFF < n ∧ n < 0x110000) : (Char.ofNat n).val.toNat = n := by
  rw [Char.ofNat,dif_pos h]
  rfl

/-- The ways in which a first byte and the bytes it is owed can spell a character. -/
theorem tails_cases {lead : UInt8} {conts : List UInt8} {owed : List (ℕ × ℕ)}
    (htails : tails lead.toNat = some owed) (hconts : List.Forall₂ Within conts owed) :
    (lead.toNat < 0x80 ∧ conts = []) ∨
    (∃ b, conts = [b] ∧ 0xC2 ≤ lead.toNat ∧ lead.toNat ≤ 0xDF ∧ 0x80 ≤ b.toNat ∧ b.toNat ≤ 0xBF) ∨
    (∃ b c, conts = [b,c] ∧ 0xE0 ≤ lead.toNat ∧ lead.toNat ≤ 0xEF ∧ (lead.toNat = 0xE0 → 0xA0 ≤ b.toNat) ∧
      (lead.toNat = 0xED → b.toNat ≤ 0x9F) ∧ 0x80 ≤ b.toNat ∧ b.toNat ≤ 0xBF ∧ 0x80 ≤ c.toNat ∧ c.toNat ≤ 0xBF) ∨
    (∃ b c d, conts = [b,c,d] ∧ 0xF0 ≤ lead.toNat ∧ lead.toNat ≤ 0xF4 ∧ (lead.toNat = 0xF0 → 0x90 ≤ b.toNat) ∧
      (lead.toNat = 0xF4 → b.toNat ≤ 0x8F) ∧ 0x80 ≤ b.toNat ∧ b.toNat ≤ 0xBF ∧ 0x80 ≤ c.toNat ∧ c.toNat ≤ 0xBF ∧
      0x80 ≤ d.toNat ∧ d.toNat ≤ 0xBF) := by
  rcases tails_forms htails with ⟨h,rfl⟩ | ⟨h,h',rfl⟩ | ⟨low,high,rfl,h⟩ | ⟨low,high,rfl,h⟩
  · cases hconts
    exact .inl ⟨h,rfl⟩
  · obtain _ | ⟨hb,_ | _⟩ := hconts
    exact .inr (.inl ⟨_,rfl,h,h',hb⟩)
  · obtain _ | ⟨hb,_ | ⟨hc,_ | _⟩⟩ := hconts
    simp only [Within] at hb hc
    exact .inr (.inr (.inl ⟨_,_,rfl,by omega⟩))
  · obtain _ | ⟨hb,_ | ⟨hc,_ | ⟨hd,_ | _⟩⟩⟩ := hconts
    simp only [Within] at hb hc hd
    exact .inr (.inr (.inr ⟨_,_,_,rfl,by omega⟩))

theorem encodeChar_eq {c : Char} {n : ℕ} (h : c.val.toNat = n) : String.utf8EncodeChar c =
    if n ≤ 0x7F then [.ofNat n]
    else if n ≤ 0x7FF then [.ofNat (n / 64 % 32 + 0xC0),.ofNat (n % 64 + 0x80)]
    else if n ≤ 0xFFFF then [.ofNat (n / 4096 % 16 + 0xE0),.ofNat (n / 64 % 64 + 0x80),.ofNat (n % 64 + 0x80)]
    else [.ofNat (n / 262144 % 8 + 0xF0),.ofNat (n / 4096 % 64 + 0x80),.ofNat (n / 64 % 64 + 0x80),.ofNat (n % 64 + 0x80)] := by
  subst h
  rfl

/-- A start that is owed nothing more is the encoding of a character. -/
theorem encodeChar_of_tails {lead : UInt8} {conts : List UInt8} {owed : List (ℕ × ℕ)}
    (htails : tails lead.toNat = some owed) (hconts : List.Forall₂ Within conts owed) :
    String.utf8EncodeChar (Char.ofNat (value (lead :: conts))) = lead :: conts := by
  rcases tails_cases htails hconts with ⟨ha,rfl⟩ | ⟨b,rfl,h⟩ | ⟨b,c,rfl,h⟩ | ⟨b,c,d,rfl,h⟩
  · rw [encodeChar_eq (charOf_val (by simp only [value]; omega)),if_pos (by simp only [value]; omega)]
    simp only [value]
    rw [ofNat_eq rfl]
  · rw [encodeChar_eq (charOf_val (by simp only [value]; omega)),if_neg (by simp only [value]; omega),
      if_pos (by simp only [value]; omega)]
    simp only [value]
    rw [ofNat_eq (a := lead) (by omega),ofNat_eq (a := b) (by omega)]
  · rw [encodeChar_eq (charOf_val (by simp only [value]; omega)),if_neg (by simp only [value]; omega),
      if_neg (by simp only [value]; omega),if_pos (by simp only [value]; omega)]
    simp only [value]
    rw [ofNat_eq (a := lead) (by omega),ofNat_eq (a := b) (by omega),ofNat_eq (a := c) (by omega)]
  · rw [encodeChar_eq (charOf_val (by simp only [value]; omega)),if_neg (by simp only [value]; omega),
      if_neg (by simp only [value]; omega),if_neg (by simp only [value]; omega)]
    simp only [value]
    rw [ofNat_eq (a := lead) (by omega),ofNat_eq (a := b) (by omega),ofNat_eq (a := c) (by omega),ofNat_eq (a := d) (by omega)]

/-- Bytes without an ill-formed part are the encoding of what they are read as. -/
theorem encode_of_units {text : List Char} (hr : Standing r) (h : units r bytes = text.map some) : r.seen ++ bytes = encode text := by
  induction bytes generalizing r text with
  | nil =>
    cases hr with
    | idle =>
      cases text with
      | nil => rfl
      | cons c text => simp [idle,flush] at h
    | inside htails _ => cases text <;> simp [units,flush] at h
  | cons b bytes ih =>
    have hcomplete : ∀ {lead : UInt8} {conts : List UInt8} (used : List (ℕ × ℕ)) {owed : List (ℕ × ℕ)} {text : List Char},
        tails lead.toNat = some (used ++ owed) → List.Forall₂ Within conts used →
        (complete (lead :: conts) owed).1 ++ units (complete (lead :: conts) owed).2 bytes = text.map some →
        lead :: conts ++ bytes = encode text := by
      intro lead conts used owed text htails hconts h
      cases owed with
      | nil =>
        rw [List.append_nil] at htails
        cases text with
        | nil => simp [complete] at h
        | cons c text =>
          simp only [complete,List.cons_append,List.nil_append,List.map_cons,List.cons.injEq,Option.some.injEq] at h
          rw [encode_cons,← h.1,encodeChar_of_tails htails hconts,← ih .idle h.2]
          rfl
      | cons next owed => exact ih (.inside htails hconts) h
    have hstart : ∀ {text : List Char}, (start b).1 ++ units (start b).2 bytes = text.map some → b :: bytes = encode text := by
      intro text h
      unfold start at h
      split at h
      · cases text <;> simp at h
      · next owed htails => exact hcomplete [] htails .nil h
    rw [units_cons] at h
    cases hr with
    | idle => exact hstart h
    | @inside lead conts used next owed htails hconts =>
      by_cases hb : Within b next
      · rw [push_within rfl hb] at h
        have := hcomplete (used ++ [next]) (by simpa using htails) (List.rel_append hconts (.cons hb .nil)) h
        simpa using this
      · rw [push_without rfl hb] at h
        cases text <;> simp at h

theorem decodeStrict_encode (text : List Char) : decodeStrict (encode text) = some text := by
  have h := units_encode text []
  rw [List.append_nil,units_nil,flush_idle,List.append_nil] at h
  simp [decodeStrict,decodeIgnore,h]

theorem encode_of_decodeStrict {text : List Char} (h : decodeStrict bytes = some text) : encode text = bytes := by
  simp only [decodeStrict,Option.ite_none_right_eq_some,Option.some.injEq,List.all_eq_true] at h
  obtain ⟨hall,rfl⟩ := h
  have hunits : units idle bytes = (decodeIgnore bytes).map some := by
    unfold decodeIgnore
    generalize units idle bytes = us at hall
    induction us with
    | nil => rfl
    | cons u us ih =>
      obtain ⟨c,rfl⟩ := Option.isSome_iff_exists.mp (hall u (by simp))
      rw [List.filterMap_cons_some (by rfl),List.map_cons,← ih fun u hu => hall u (by simp [hu])]
  exact (encode_of_units .idle hunits).symm

end Encoding
section Synchronising

/-- Nothing is read without a trace. -/
theorem units_ne_nil (h : r.owed ≠ [] ∨ bytes ≠ []) : units r bytes ≠ [] := by
  induction bytes generalizing r with
  | nil => simpa [flush] using h.resolve_right (by simp)
  | cons b bytes ih =>
    have hcomplete : ∀ seen owed, (complete seen owed).1 ++ units (complete seen owed).2 bytes ≠ [] := by
      intro seen owed
      cases owed with
      | nil => simp [complete]
      | cons next owed => simpa [complete] using ih (r := ⟨seen,next :: owed⟩) (.inl (by simp))
    have hstart : (start b).1 ++ units (start b).2 bytes ≠ [] := by
      unfold start
      split
      · simp
      · exact hcomplete _ _
    rw [units_cons]
    unfold push
    split
    · exact hstart
    · split
      · exact hcomplete _ _
      · simp

/-- A reader that starts in the middle reads no character that one who stood elsewhere would not. -/
theorem emitted_idle_subset (hr : Standing r) {c : Char} (h : some c ∈ emitted idle bytes) : some c ∈ emitted r bytes := by
  induction bytes generalizing r with
  | nil => exact h
  | cons b bytes ih =>
    cases hr with
    | idle => exact h
    | @inside lead conts used next owed htails hconts =>
      have hafter := (Standing.inside htails hconts).push b
      simp only [emitted,List.mem_append] at h ⊢
      by_cases hb : Within b next
      · -- a byte that goes on with a character starts none
        have hrange := tails_range htails next (by simp)
        have hnone : push idle b = ([none],idle) := by
          have hb1 := hb.1
          have hb2 := hb.2
          simp only [push,idle,start,tails]
          repeat' (first | rw [if_neg (by omega)])
        rw [hnone] at h
        rcases h with h | h
        · simp at h
        · exact .inr (ih hafter h)
      · rw [push_without rfl hb] at hafter ⊢
        have hstart : push idle b = start b := rfl
        rw [hstart] at h
        rcases h with h | h
        · exact .inl (List.mem_cons_of_mem _ h)
        · exact .inr h

/-- Ill-formed parts apart, what a part is read as is read in the whole. -/
theorem mem_units_middle {front : List UInt8} {c : Char} (h : some c ∈ units idle bytes) :
    some c ∈ units idle (front ++ (bytes ++ more)) := by
  have hemitted : some c ∈ emitted idle bytes := by
    rcases List.mem_append.mp h with h | h
    · exact h
    · unfold flush at h
      split at h <;> simp at h
  rw [units_append,units_append]
  exact List.mem_append_right _ (List.mem_append_left _ (emitted_idle_subset (Standing.idle.after front) hemitted))

theorem ascii_of_tails {lead : UInt8} {conts : List UInt8} {owed : List (ℕ × ℕ)} (htails : tails lead.toNat = some owed)
    (hconts : List.Forall₂ Within conts owed) (hc : (Char.ofNat (value (lead :: conts))).toNat < 0x80) :
    conts = [] ∧ lead.toNat = (Char.ofNat (value (lead :: conts))).toNat := by
  have henc := encodeChar_of_tails htails hconts
  generalize Char.ofNat (value (lead :: conts)) = c at henc hc ⊢
  rw [encodeChar_eq rfl,if_pos (show c.val.toNat ≤ 0x7F from Nat.le_of_lt_succ hc)] at henc
  obtain ⟨rfl,hnil⟩ := List.cons.inj henc
  exact ⟨hnil.symm,toNat_ofNat (show c.val.toNat < 256 from by have : c.val.toNat < 0x80 := hc; omega)⟩

/-- An ASCII character that is read is one of the bytes. -/
theorem exists_of_ascii (hr : Standing r) {c : Char} (h : some c ∈ units r bytes) (hc : c.toNat < 0x80) :
    ∃ b ∈ bytes, b.toNat = c.toNat := by
  induction bytes generalizing r with
  | nil =>
    simp only [units_nil,flush] at h
    split at h <;> simp at h
  | cons b bytes ih =>
    have hstart : some c ∈ (start b).1 → b.toNat = c.toNat := by
      intro h
      unfold start at h
      split at h
      · simp at h
      · next owed htails =>
        cases owed with
        | nil =>
          have hc' : c = Char.ofNat (value [b]) := by simpa [complete] using h
          exact hc' ▸ (ascii_of_tails htails .nil (hc' ▸ hc)).2
        | cons next owed => simp [complete] at h
    rw [units_cons] at h
    rcases List.mem_append.mp h with h | h
    · refine ⟨b,List.mem_cons_self,?_⟩
      cases hr with
      | idle => exact hstart h
      | @inside lead conts used next owed htails hconts =>
        by_cases hb : Within b next
        · rw [push_within rfl hb] at h
          cases owed with
          | cons next' owed => simp [complete] at h
          | nil =>
            have hc' : c = Char.ofNat (value (lead :: (conts ++ [b]))) := by simpa [complete] using h
            have hall : List.Forall₂ Within (conts ++ [b]) (used ++ [next]) := List.rel_append hconts (.cons hb .nil)
            have := (ascii_of_tails htails hall (hc' ▸ hc)).1
            simp at this
        · rw [push_without rfl hb] at h
          exact hstart (by simpa using h)
    · obtain ⟨b',hb',he⟩ := ih (hr.push b) h
      exact ⟨b',List.mem_cons_of_mem _ hb',he⟩

theorem decodeReplace_ascii (hb : b.toNat < 0x80) :
    decodeReplace (bytes ++ b :: more) = decodeReplace bytes ++ Char.ofNat b.toNat :: decodeReplace more := by
  simp [decodeReplace,units_ascii Standing.idle hb]

theorem decodeReplace_ne_nil (h : bytes ≠ []) : decodeReplace bytes ≠ [] := by
  simpa [decodeReplace] using units_ne_nil (r := idle) (.inr h)

@[simp] theorem decodeReplace_nil : decodeReplace [] = [] := rfl

/-- A character other than the replacement was read. -/
theorem mem_decodeReplace {c : Char} (hc : c ≠ replacement) : c ∈ decodeReplace bytes ↔ some c ∈ units idle bytes := by
  constructor
  · intro h
    obtain ⟨unit,hunit,rfl⟩ := List.mem_map.mp h
    cases unit with
    | none => exact absurd rfl hc
    | some c => exact hunit
  · intro h
    exact List.mem_map.mpr ⟨some c,h,rfl⟩

end Synchronising

end Utf8
end LocalPlane
