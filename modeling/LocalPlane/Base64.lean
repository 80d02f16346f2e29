import Mathlib.Data.List.Basic
import Mathlib.Data.Nat.Notation
import Mathlib.Tactic.Common

/-!
# Base 64

Three bytes are four characters of an alphabet safe in a URL, and what is left over of one or two
is padded. Reading is strict: nothing stands outside the alphabet or behind the padding. It takes
both spellings of the last two characters of the alphabet.
-/

set_option linter.dupNamespace false

namespace LocalPlane
namespace Base64

abbrev Text := List Char

def digit (n : ℕ) : Char :=
  if n < 26 then Char.ofNat (65 + n)
  else if n < 52 then Char.ofNat (71 + n)
  else if n < 62 then Char.ofNat (n - 4)
  else if n = 62 then '-' else '_'

def value (c : Char) : Option ℕ :=
  if 65 ≤ c.toNat ∧ c.toNat ≤ 90 then some (c.toNat - 65)
  else if 97 ≤ c.toNat ∧ c.toNat ≤ 122 then some (c.toNat - 71)
  else if 48 ≤ c.toNat ∧ c.toNat ≤ 57 then some (c.toNat + 4)
  else if c = '-' ∨ c = '+' then some 62
  else if c = '_' ∨ c = '/' then some 63
  else none

def encode : List UInt8 → Text
  | [] => []
  | [a] => [digit (a.toNat / 4),digit (a.toNat % 4 * 16),'=','=']
  | [a,b] => [digit (a.toNat / 4),digit (a.toNat % 4 * 16 + b.toNat / 16),digit (b.toNat % 16 * 4),'=']
  | a :: b :: c :: rest =>
    digit (a.toNat / 4) :: digit (a.toNat % 4 * 16 + b.toNat / 16) :: digit (b.toNat % 16 * 4 + c.toNat / 64) :: digit (c.toNat % 64) ::
      encode rest

def byte (n : ℕ) : UInt8 := UInt8.ofNat n

def decode : Text → Option (List UInt8)
  | [] => some []
  | a :: b :: c :: d :: rest =>
    match value a,value b,value c,value d with
    | some a,some b,some c,some d =>
      (decode rest).map fun bytes => byte (a * 4 + b / 16) :: byte (b % 16 * 16 + c / 4) :: byte (c % 4 * 64 + d) :: bytes
    | some a,some b,some c,none => if d = '=' ∧ rest = [] then some [byte (a * 4 + b / 16),byte (b % 16 * 16 + c / 4)] else none
    | some a,some b,none,none => if c = '=' ∧ d = '=' ∧ rest = [] then some [byte (a * 4 + b / 16)] else none
    | _,_,_,_ => none
  | _ => none

theorem value_digit {n : ℕ} (h : n < 64) : value (digit n) = some n := by
  have hall : ∀ n < 64, value (digit n) = some n := by decide
  exact hall n h

theorem value_pad : value '=' = none := rfl

theorem byte_eq {a : UInt8} {n : ℕ} (h : n = a.toNat) : byte n = a := by
  rw [byte,h,UInt8.ofNat_toNat]

/-- What is encoded is read back. -/
theorem decode_encode (bytes : List UInt8) : decode (encode bytes) = some bytes := by
  induction bytes using encode.induct with
  | case1 => rfl
  | case2 a =>
    have ha := a.toNat_lt
    rw [encode,decode,value_digit (by omega),value_digit (by omega)]
    have h₁ : byte (a.toNat / 4 * 4 + a.toNat % 4 * 16 / 16) = a := byte_eq (by omega)
    rw [value_pad]
    dsimp only
    rw [if_pos ⟨rfl,rfl,rfl⟩,h₁]
  | case3 a b =>
    have ha := a.toNat_lt
    have hb := b.toNat_lt
    rw [encode,decode,value_digit (by omega),value_digit (by omega),value_digit (by omega)]
    have h₁ : byte (a.toNat / 4 * 4 + (a.toNat % 4 * 16 + b.toNat / 16) / 16) = a := byte_eq (by omega)
    have h₂ : byte ((a.toNat % 4 * 16 + b.toNat / 16) % 16 * 16 + b.toNat % 16 * 4 / 4) = b := byte_eq (by omega)
    rw [value_pad]
    dsimp only
    rw [if_pos ⟨rfl,rfl⟩,h₁,h₂]
  | case4 a b c rest ih =>
    have ha := a.toNat_lt
    have hb := b.toNat_lt
    have hc := c.toNat_lt
    rw [encode,decode,value_digit (by omega),value_digit (by omega),value_digit (by omega),value_digit (by omega)]
    have h₁ : byte (a.toNat / 4 * 4 + (a.toNat % 4 * 16 + b.toNat / 16) / 16) = a := byte_eq (by omega)
    have h₂ : byte ((a.toNat % 4 * 16 + b.toNat / 16) % 16 * 16 + (b.toNat % 16 * 4 + c.toNat / 64) / 4) = b := byte_eq (by omega)
    have h₃ : byte ((b.toNat % 16 * 4 + c.toNat / 64) % 4 * 64 + c.toNat % 64) = c := byte_eq (by omega)
    dsimp only
    rw [ih,Option.map_some,h₁,h₂,h₃]

/-- A text of two bytes more than whole groups has one pad, behind characters of the alphabet. -/
theorem decode_two {text : Text} {bytes : List UInt8} (h : decode text = some bytes) (hlength : bytes.length % 3 = 2) :
    ∃ body, text = body ++ ['='] ∧ (∀ c ∈ body, (value c).isSome) ∧ 3 * body.length = 4 * bytes.length + 1 := by
  induction text using decode.induct generalizing bytes with
  | case1 =>
    cases h
    cases hlength
  | case2 a b c d rest va vb vc vd hd hc hb ha ih =>
    simp only [decode,ha,hb,hc,hd] at h
    obtain ⟨tail,htail,rfl⟩ := Option.map_eq_some_iff.mp h
    have htwo : tail.length % 3 = 2 := by
      simp only [List.length_cons] at hlength
      omega
    obtain ⟨body,rfl,hbody,hcount⟩ := ih htail htwo
    refine ⟨a :: b :: c :: d :: body,rfl,fun x hx => ?_,by simp only [List.length_cons]; omega⟩
    simp only [List.mem_cons] at hx
    rcases hx with rfl | rfl | rfl | rfl | hx
    · rw [ha]; rfl
    · rw [hb]; rfl
    · rw [hc]; rfl
    · rw [hd]; rfl
    · exact hbody x hx
  | case3 a b c d rest va vb vc hd hc hb ha hend =>
    obtain ⟨rfl,rfl⟩ := hend
    simp only [decode,ha,hb,hc,hd] at h
    cases h
    refine ⟨[a,b,c],rfl,fun x hx => ?_,rfl⟩
    simp only [List.mem_cons,List.not_mem_nil,or_false] at hx
    rcases hx with rfl | rfl | rfl
    · rw [ha]; rfl
    · rw [hb]; rfl
    · rw [hc]; rfl
  | case4 a b c d rest va vb vc hd hc hb ha hend =>
    simp only [decode,ha,hb,hc,hd,if_neg hend] at h
    cases h
  | case5 a b c d rest va vb hd hc hb ha hend =>
    simp only [decode,ha,hb,hc,hd,if_pos hend] at h
    cases h
    cases hlength
  | case6 a b c d rest va vb hd hc hb ha hend =>
    simp only [decode,ha,hb,hc,hd,if_neg hend] at h
    cases h
  | case7 a b c d rest h₁ h₂ h₃ =>
    rw [decode] at h
    split at h
    · next ha hb hc hd => exact (h₁ _ _ _ _ ha hb hc hd).elim
    · next ha hb hc hd => exact (h₂ _ _ _ ha hb hc hd).elim
    · next ha hb hc hd => exact (h₃ _ _ ha hb hc hd).elim
    · cases h
  | case8 text h₁ h₂ =>
    unfold decode at h
    split at h
    · exact (h₁ rfl).elim
    · exact (h₂ _ _ _ _ _ rfl).elim
    · cases h

/-- Without the padding. -/
def strip (text : Text) : Text := (text.reverse.dropWhile fun c => c == '=').reverse

theorem strip_pad {body : Text} (h : ∀ c ∈ body, (value c).isSome) : strip (body ++ ['=']) = body := by
  have hdrop : body.reverse.dropWhile (fun c => c == '=') = body.reverse := by
    cases hbody : body.reverse with
    | nil => rfl
    | cons c rest =>
      have hc : c ≠ '=' := by
        rintro rfl
        have hsome := h '=' (List.mem_reverse.mp (by rw [hbody]; exact List.mem_cons_self))
        rw [value_pad] at hsome
        cases hsome
      rw [List.dropWhile_cons_of_neg (by simpa using hc)]
  rw [strip,List.reverse_append,List.reverse_singleton,List.singleton_append,List.dropWhile_cons_of_pos (by rfl),hdrop,
    List.reverse_reverse]

end Base64
end LocalPlane
