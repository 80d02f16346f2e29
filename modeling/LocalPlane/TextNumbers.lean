import Mathlib.Algebra.Group.Int.Defs
import Mathlib.Algebra.Group.Nat.Defs
import Mathlib.Data.Int.Notation
import Mathlib.Data.List.TakeWhile
import Mathlib.Tactic.Common
import Std.Data.String.ToNat

/-!
# Numbers and blanks in text

What `int()` reads in a text: blanks around it, a sign, and decimal digits of any script with
single underscores between them. `str.strip()` takes off a few blanks more.
-/

set_option linter.dupNamespace false

namespace LocalPlane
namespace TextNumbers

/-- What stands for zero in each run of ten decimal digits. -/
def zeros : List ℕ :=
  [0x30,0x660,0x6F0,0x7C0,0x966,0x9E6,0xA66,0xAE6,0xB66,0xBE6,0xC66,0xCE6,0xD66,0xDE6,0xE50,0xED0,0xF20,0x1040,0x1090,0x17E0,
   0x1810,0x1946,0x19D0,0x1A80,0x1A90,0x1B50,0x1BB0,0x1C40,0x1C50,0xA620,0xA8D0,0xA900,0xA9D0,0xA9F0,0xAA50,0xABF0,0xFF10,
   0x104A0,0x10D30,0x11066,0x110F0,0x11136,0x111D0,0x112F0,0x11450,0x114D0,0x11650,0x116C0,0x11730,0x118E0,0x11950,0x11C50,
   0x11D50,0x11DA0,0x11F50,0x16A60,0x16AC0,0x16B50,0x1D7CE,0x1D7D8,0x1D7E2,0x1D7EC,0x1D7F6,0x1E140,0x1E2F0,0x1E4F0,0x1E950,
   0x1FBF0]

def digitValue (c : Char) : Option ℕ := (zeros.find? fun z => z ≤ c.toNat && c.toNat < z + 10).map (c.toNat - ·)

/-- The blanks above ASCII. -/
def wideBlanks : List ℕ :=
  [133,160,0x1680,0x2000,0x2001,0x2002,0x2003,0x2004,0x2005,0x2006,0x2007,0x2008,0x2009,0x200A,0x2028,0x2029,0x202F,0x205F,0x3000]

/-- The blanks around a number. -/
def numberBlank (c : Char) : Bool := c.toNat ∈ [9,10,11,12,13,32] ++ wideBlanks

/-- `str.isspace`. -/
def blank (c : Char) : Bool := c.toNat ∈ [9,10,11,12,13,28,29,30,31,32] ++ wideBlanks

def trim (p : Char → Bool) (text : List Char) : List Char := ((text.dropWhile p).reverse.dropWhile p).reverse

/-- `str.strip()`. -/
def strip (text : List Char) : List Char := trim blank text

/-- Digits, with an underscore only between two of them. -/
def digits : List Char → Option (List ℕ)
  | [] => none
  | [c] => (digitValue c).map fun d => [d]
  | c :: '_' :: text => (digitValue c).bind fun d => (digits text).map (d :: ·)
  | c :: text => (digitValue c).bind fun d => (digits text).map (d :: ·)

def ofDigits (ds : List ℕ) : ℕ := ds.foldl (fun n d => n * 10 + d) 0

/-- The longest text of digits that `int()` converts. -/
def maxDigits : ℕ := 4300

def unsigned (text : List Char) : Option ℕ :=
  (digits text).bind fun ds => if ds.length ≤ maxDigits then some (ofDigits ds) else none

/-- `int(text)`; `none` is a ValueError. -/
def int (text : List Char) : Option ℤ :=
  match trim numberBlank text with
  | '-' :: text => (unsigned text).map fun n => -(n : ℤ)
  | '+' :: text => (unsigned text).map fun n => (n : ℤ)
  | text => (unsigned text).map fun n => (n : ℤ)

/-- A number as it is written. -/
def decimal (n : ℕ) : List Char := (Nat.repr n).toList

section Decimal

variable {c : Char} {text : List Char} {n : ℕ}

theorem isDigit_of_mem_decimal (h : c ∈ decimal n) : c.isDigit = true := by
  rw [decimal,Nat.toList_repr] at h
  exact Nat.isDigit_of_mem_toDigits (by decide) (by decide) h

theorem toNat_of_isDigit (h : c.isDigit = true) : 48 ≤ c.toNat ∧ c.toNat ≤ 57 := by
  simp only [Char.isDigit,ge_iff_le,Bool.and_eq_true,decide_eq_true_eq,UInt32.le_iff_toNat_le] at h
  exact h

theorem decimal_ne_nil (n : ℕ) : decimal n ≠ [] := by
  rw [decimal,Nat.toList_repr]
  exact Nat.toDigits_ne_nil

theorem digitValue_ascii (h : c.isDigit = true) : digitValue c = some (c.toNat - 48) := by
  obtain ⟨hlo,hhi⟩ := toNat_of_isDigit h
  have h1 : c.toNat < 58 := by omega
  simp [digitValue,zeros,hlo,h1]

theorem digits_ascii (h : ∀ c ∈ text, c.isDigit = true) (hne : text ≠ []) : digits text = some (text.map fun c => c.toNat - 48) := by
  induction text with
  | nil => exact absurd rfl hne
  | cons c text ih =>
    have hc := digitValue_ascii (h c List.mem_cons_self)
    cases text with
    | nil => simp [digits,hc]
    | cons d text =>
      have hd : d ≠ '_' := by
        rintro rfl
        exact absurd (h '_' (by simp)) (by decide)
      rw [digits]
      · rw [hc,ih (fun e he => h e (List.mem_cons_of_mem _ he)) (by simp)]
        rfl
      · simp
      · rintro _ he
        exact hd (List.cons.inj he).1

theorem numberBlank_digit (h : c.isDigit = true) : numberBlank c = false := by
  obtain ⟨hlo,hhi⟩ := toNat_of_isDigit h
  simp only [numberBlank,wideBlanks,List.cons_append,List.nil_append,decide_eq_false_iff_not,List.mem_cons,
    List.not_mem_nil,or_false]
  omega

theorem trim_ascii (h : ∀ c ∈ text, c.isDigit = true) : trim numberBlank text = text := by
  have hkeep : ∀ {text : List Char}, (∀ c ∈ text, c.isDigit = true) → text.dropWhile numberBlank = text := by
    intro text h
    cases text with
    | nil => rfl
    | cons c text => rw [List.dropWhile_cons_of_neg (by simp [numberBlank_digit (h c List.mem_cons_self)])]
  rw [trim,hkeep h,hkeep fun c hc => h c (List.mem_reverse.mp hc),List.reverse_reverse]

theorem ofDigits_decimal (n : ℕ) : ofDigits ((decimal n).map fun c => c.toNat - 48) = n := by
  have hfold := Nat.ofDigitChars_ten_toDigits (n := n)
  rw [Nat.ofDigitChars_eq_foldl] at hfold
  rw [ofDigits,decimal,Nat.toList_repr,List.foldl_map]
  simpa [Nat.mul_comm] using hfold

/-- What is written is what is read. -/
theorem int_decimal (h : n < 10 ^ 16) : int (decimal n) = some (n : ℤ) := by
  have hdigits : ∀ c ∈ decimal n, c.isDigit = true := fun c hc => isDigit_of_mem_decimal hc
  have hlength : (decimal n).length ≤ maxDigits := by
    rw [decimal,Nat.toList_repr]
    exact ((Nat.length_toDigits_le_iff (by decide) (by decide)).mpr h).trans (by decide)
  have hunsigned : unsigned (decimal n) = some n := by
    rw [unsigned,digits_ascii hdigits (decimal_ne_nil n),Option.bind_some,ofDigits_decimal,if_pos]
    simpa using hlength
  rw [int,trim_ascii hdigits]
  split
  · next heq => exact absurd (hdigits '-' (by rw [heq]; simp)) (by decide)
  · next heq => exact absurd (hdigits '+' (by rw [heq]; simp)) (by decide)
  · rw [hunsigned]
    rfl

end Decimal

end TextNumbers
end LocalPlane
