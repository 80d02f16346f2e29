import Mathlib.Data.Nat.Notation
import Mathlib.Data.List.Basic
import Mathlib.Tactic.Common
import Mathlib.Tactic.Ring

/-!
# Instants as text

An instant is a number of microseconds since the first day of the year one, in UTC. It is
written by its calendar date and its time of day, and read back from the extended form of a
date and a time, with or without an offset.
-/

set_option linter.dupNamespace false

namespace LocalPlane
namespace CivilTime

abbrev Text := List Char

section Calendar

def leap (year : ℕ) : Bool := year % 4 = 0 ∧ (year % 100 ≠ 0 ∨ year % 400 = 0)

def daysBeforeYear (year : ℕ) : ℕ := (year - 1) * 365 + (year - 1) / 4 - (year - 1) / 100 + (year - 1) / 400

def daysBeforeMonth (leap : Bool) (month : ℕ) : ℕ :=
  [0,0,31,59,90,120,151,181,212,243,273,304,334].getD month 0 + if 2 < month ∧ leap then 1 else 0

def daysInMonth (leap : Bool) (month : ℕ) : ℕ :=
  if month = 2 ∧ leap then 29 else [0,31,28,31,30,31,30,31,31,30,31,30,31].getD month 0

structure Date where
  year : ℕ
  month : ℕ
  day : ℕ
deriving DecidableEq,Repr

/-- The days before the date. -/
def Date.toDays (d : Date) : ℕ := daysBeforeYear d.year + daysBeforeMonth (leap d.year) d.month + d.day - 1

def Date.valid (d : Date) : Bool :=
  1 ≤ d.year ∧ d.year ≤ 9999 ∧ 1 ≤ d.month ∧ d.month ≤ 12 ∧ 1 ≤ d.day ∧ d.day ≤ daysInMonth (leap d.year) d.month

/-- The month and the day of a day of the year, the month first estimated. -/
def monthDay (leap : Bool) (n : ℕ) : ℕ × ℕ :=
  let month := (n + 50) / 32
  if n < daysBeforeMonth leap month then (month - 1,n - daysBeforeMonth leap (month - 1) + 1)
  else (month,n - daysBeforeMonth leap month + 1)

/-- The date of a day, by its place in the cycles of 400, 100 and 4 years. -/
def ofDays (n : ℕ) : Date :=
  let n400 := n / 146097
  let n100 := n % 146097 / 36524
  let n4 := n % 146097 % 36524 / 1461
  let n1 := n % 146097 % 36524 % 1461 / 365
  let rest := n % 146097 % 36524 % 1461 % 365
  let year := n400 * 400 + n100 * 100 + n4 * 4 + n1 + 1
  if n1 = 4 ∨ n100 = 4 then ⟨year - 1,12,31⟩
  else ⟨year,(monthDay (n1 = 3 ∧ (n4 ≠ 24 ∨ n100 = 3)) rest).1,(monthDay (n1 = 3 ∧ (n4 ≠ 24 ∨ n100 = 3)) rest).2⟩

theorem monthDay_spec : ∀ n < 366, ∀ leap : Bool, n < 365 ∨ leap = true →
    1 ≤ (monthDay leap n).1 ∧ (monthDay leap n).1 ≤ 12 ∧ 1 ≤ (monthDay leap n).2 ∧
    (monthDay leap n).2 ≤ daysInMonth leap (monthDay leap n).1 ∧
    daysBeforeMonth leap (monthDay leap n).1 + (monthDay leap n).2 = n + 1 := by
  decide +kernel

theorem leap_cycle {a b c e : ℕ} (hb : b ≤ 3) (hc : c ≤ 24) (he : e ≤ 3) :
    leap (a * 400 + b * 100 + c * 4 + e + 1) = decide (e = 3 ∧ (c ≠ 24 ∨ b = 3)) := by
  rw [leap]
  refine decide_eq_decide.mpr ?_
  omega

theorem daysBeforeYear_cycle {a b c e : ℕ} (hb : b ≤ 3) (hc : c ≤ 24) (he : e ≤ 3) :
    daysBeforeYear (a * 400 + b * 100 + c * 4 + e + 1) = a * 146097 + b * 36524 + c * 1461 + e * 365 := by
  rw [daysBeforeYear]
  omega

/-- The last day of a leap year. -/
theorem yearEnd_spec {year : ℕ} (hleap : leap year = true) (hpos : 1 ≤ year) (h : year ≤ 9999) :
    (Date.mk year 12 31).valid = true ∧ (Date.mk year 12 31).toDays = daysBeforeYear year + 365 := by
  simp [Date.valid,Date.toDays,daysInMonth,daysBeforeMonth,hleap,hpos,h]

/-- A day's date is a date, and the days before it are that day's number. -/
theorem ofDays_spec (n : ℕ) (h : n < 3652059) : (ofDays n).valid = true ∧ (ofDays n).toDays = n := by
  obtain ⟨a,m,hm,hn⟩ : ∃ a m, m < 146097 ∧ n = a * 146097 + m := ⟨n / 146097,n % 146097,by omega,by omega⟩
  obtain ⟨b,m2,hm2,hn2⟩ : ∃ b m2, m2 < 36524 ∧ m = b * 36524 + m2 := ⟨m / 36524,m % 36524,by omega,by omega⟩
  obtain ⟨c,m3,hm3,hn3⟩ : ∃ c m3, m3 < 1461 ∧ m2 = c * 1461 + m3 := ⟨m2 / 1461,m2 % 1461,by omega,by omega⟩
  obtain ⟨e,r,hr,hn4⟩ : ∃ e r, r < 365 ∧ m3 = e * 365 + r := ⟨m3 / 365,m3 % 365,by omega,by omega⟩
  have hofDays : ofDays n = if e = 4 ∨ b = 4 then ⟨a * 400 + b * 100 + c * 4 + e,12,31⟩
      else ⟨a * 400 + b * 100 + c * 4 + e + 1,(monthDay (e = 3 ∧ (c ≠ 24 ∨ b = 3)) r).1,(monthDay (e = 3 ∧ (c ≠ 24 ∨ b = 3)) r).2⟩ := by
    have h1 : n / 146097 = a := by omega
    have h2 : n % 146097 = m := by omega
    have h3 : m / 36524 = b := by omega
    have h4 : m % 36524 = m2 := by omega
    have h5 : m2 / 1461 = c := by omega
    have h6 : m2 % 1461 = m3 := by omega
    have h7 : m3 / 365 = e := by omega
    have h8 : m3 % 365 = r := by omega
    simp only [ofDays,h1,h2,h3,h4,h5,h6,h7,h8,Nat.add_sub_cancel]
  rw [hofDays]
  split
  case isTrue hend =>
    have hleap : leap (a * 400 + b * 100 + c * 4 + e) = true := by
      rw [leap]
      exact decide_eq_true (by omega)
    have hlast := yearEnd_spec hleap (by omega) (by omega)
    refine ⟨hlast.1,hlast.2.trans ?_⟩
    obtain he | hb := hend
    · have hyear := daysBeforeYear_cycle (a := a) (b := b) (c := c) (e := 3) (by omega) (by omega) (by decide)
      rw [show a * 400 + b * 100 + c * 4 + e = a * 400 + b * 100 + c * 4 + 3 + 1 by omega,hyear]
      omega
    · have hyear := daysBeforeYear_cycle (a := a) (b := 3) (c := 24) (e := 3) (by decide) (by decide) (by decide)
      have hsame : a * 400 + b * 100 + c * 4 + e = a * 400 + 3 * 100 + 24 * 4 + 3 + 1 := by omega
      have := (congrArg daysBeforeYear hsame).trans hyear
      omega
  case isFalse hinside =>
    have hb : b ≤ 3 := by omega
    have hc : c ≤ 24 := by omega
    have he : e ≤ 3 := by omega
    have hday := monthDay_spec r (by omega) (decide (e = 3 ∧ (c ≠ 24 ∨ b = 3))) (.inl hr)
    have hyear := daysBeforeYear_cycle (a := a) hb hc he
    have hleap := leap_cycle (a := a) hb hc he
    simp only [Date.valid,Date.toDays,hleap,hyear]
    refine ⟨decide_eq_true ?_,?_⟩ <;> omega

end Calendar

section Text

/-- An instant of the years 1 to 9999. -/
structure Instant where
  micros : ℕ
  bound : micros < 3652059 * 86400000000
deriving DecidableEq

def digitChar (n : ℕ) : Char := Char.ofNat (48 + n % 10)

def digitValue (c : Char) : Option ℕ := if 48 ≤ c.toNat ∧ c.toNat ≤ 57 then some (c.toNat - 48) else none

/-- The last digits of a number, as many as asked for. -/
def pad : ℕ → ℕ → Text
  | 0,_ => []
  | k+1,n => digitChar (n / 10 ^ k) :: pad k n

def Instant.days (t : Instant) : ℕ := t.micros / 86400000000

def Instant.seconds (t : Instant) : ℕ := t.micros % 86400000000 / 1000000

def Instant.fraction (t : Instant) : ℕ := t.micros % 1000000

/-- `isoformat` of an instant in UTC. -/
def isoformat (t : Instant) : Text :=
  let date := ofDays t.days
  pad 4 date.year ++ '-' :: pad 2 date.month ++ '-' :: pad 2 date.day ++ 'T' ::
    pad 2 (t.seconds / 3600) ++ ':' :: pad 2 (t.seconds / 60 % 60) ++ ':' :: pad 2 (t.seconds % 60) ++
    (if t.fraction = 0 then [] else '.' :: pad 6 t.fraction) ++ ['+','0','0',':','0','0']

/-- An instant as it is read; without an offset it belongs to no zone. -/
structure Datetime where
  zoned : Bool
  instant : ℤ
deriving DecidableEq

/-- So many digits, and what is left. -/
def number : ℕ → ℕ → Text → Option (ℕ × Text)
  | 0,acc,text => some (acc,text)
  | _+1,_,[] => none
  | k+1,acc,c :: text => (digitValue c).bind fun d => number k (acc * 10 + d) text

def skip (c : Char) : Text → Option Text
  | [] => none
  | c' :: text => if c' = c then some text else none

def readDate (text : Text) : Option (Date × Text) := do
  let (year,text) ← number 4 0 text
  let text ← skip '-' text
  let (month,text) ← number 2 0 text
  let text ← skip '-' text
  let (day,text) ← number 2 0 text
  if (Date.mk year month day).valid then some (⟨year,month,day⟩,text) else none

/-- The digits of a fraction to the microsecond; those beyond the sixth are dropped. -/
def readFraction (text : Text) : Option (ℕ × Text) :=
  let digits := text.takeWhile fun c => (digitValue c).isSome
  if digits = [] then none
  else (number 6 0 ((digits ++ List.replicate 6 '0').take 6)).map fun (n,_) => (n,text.drop digits.length)

/-- Hours, minutes and, where they are given, seconds and a fraction, in microseconds. -/
def readTime (text : Text) : Option (ℕ × Text) := do
  let (hour,text) ← number 2 0 text
  let text ← skip ':' text
  let (minute,text) ← number 2 0 text
  if ¬(hour < 24 ∧ minute < 60) then none
  else match skip ':' text with
    | none => some ((hour * 3600 + minute * 60) * 1000000,text)
    | some text => do
      let (second,text) ← number 2 0 text
      if ¬second < 60 then none
      else match skip '.' text with
        | none => some ((hour * 3600 + minute * 60 + second) * 1000000,text)
        | some text => do
          let (micros,text) ← readFraction text
          some ((hour * 3600 + minute * 60 + second) * 1000000 + micros,text)

def readOffset : Text → Option (Option ℤ)
  | [] => some none
  | ['Z'] => some (some 0)
  | '+' :: text => (readTime text).bind fun (n,rest) => if rest = [] then some (some n) else none
  | '-' :: text => (readTime text).bind fun (n,rest) => if rest = [] then some (some (-n)) else none
  | _ => none

/-- `fromisoformat`, of a calendar date and a time of day in their extended forms. -/
def fromisoformat (text : Text) : Option Datetime := do
  let (date,text) ← readDate text
  match text with
  | [] => some ⟨false,date.toDays * 86400000000⟩
  | _ :: text => do
    let (time,text) ← readTime text
    let offset ← readOffset text
    match offset with
    | none => some ⟨false,date.toDays * 86400000000 + time⟩
    | some offset => some ⟨true,date.toDays * 86400000000 + time - offset⟩

theorem digitValue_digitChar (n : ℕ) : digitValue (digitChar n) = some (n % 10) := by
  have all : ∀ d < 10, digitValue (Char.ofNat (48 + d)) = some d := by decide
  exact all (n % 10) (Nat.mod_lt n (by decide))

@[simp] theorem length_pad (k n : ℕ) : (pad k n).length = k := by
  induction k with
  | zero => rfl
  | succ k ih => simp [pad,ih]

theorem digits_pad (k n : ℕ) : ∀ c ∈ pad k n, (digitValue c).isSome = true := by
  induction k with
  | zero => simp [pad]
  | succ k ih =>
    rw [pad,List.forall_mem_cons]
    exact ⟨by rw [digitValue_digitChar]; rfl,ih⟩

/-- What is written with so many digits is read back to that many. -/
theorem number_pad (k acc n : ℕ) (rest : Text) : number k acc (pad k n ++ rest) = some (acc * 10 ^ k + n % 10 ^ k,rest) := by
  induction k generalizing acc with
  | zero => simp [number,pad,Nat.mod_one]
  | succ k ih =>
    rw [pad,List.cons_append,number,digitValue_digitChar,Option.bind_some,ih,Nat.mod_pow_succ]
    congr 2
    ring

theorem number_two {n : ℕ} (h : n < 100) (rest : Text) : number 2 0 (pad 2 n ++ rest) = some (n,rest) := by
  rw [number_pad,Nat.mod_eq_of_lt (by simpa using h)]
  simp

theorem skip_cons (c : Char) (rest : Text) : skip c (c :: rest) = some rest := by simp [skip]

theorem readDate_pad {d : Date} (h : d.valid = true) (rest : Text) :
    readDate (pad 4 d.year ++ '-' :: pad 2 d.month ++ '-' :: pad 2 d.day ++ rest) = some (d,rest) := by
  have hvalid := h
  simp only [Date.valid,decide_eq_true_eq] at h
  have hday : daysInMonth (leap d.year) d.month ≤ 31 := by
    have all : ∀ leap : Bool, ∀ m ≤ 12, daysInMonth leap m ≤ 31 := by decide
    exact all _ _ h.2.2.2.1
  have hyear : d.year % 10 ^ 4 = d.year := Nat.mod_eq_of_lt (by omega)
  simp only [List.append_assoc,List.cons_append,readDate,number_pad,hyear,Option.bind_eq_bind,Option.bind_some,skip_cons,
    number_two (show d.month < 100 by omega),number_two (show d.day < 100 by omega),Nat.zero_mul,Nat.zero_add]
  exact if_pos hvalid

theorem readFraction_pad {n : ℕ} (h : n < 1000000) {c : Char} (hc : digitValue c = none) (rest : Text) :
    readFraction (pad 6 n ++ c :: rest) = some (n,c :: rest) := by
  have htake : (pad 6 n ++ c :: rest).takeWhile (fun c => (digitValue c).isSome) = pad 6 n := by
    rw [List.takeWhile_append_of_pos (digits_pad 6 n),List.takeWhile_cons_of_neg (by simp [hc]),List.append_nil]
  have hpad : (pad 6 n ++ List.replicate 6 '0').take 6 = pad 6 n ++ [] := by
    rw [List.append_nil]
    exact List.take_left' (length_pad 6 n)
  have hnumber : number 6 0 (pad 6 n ++ []) = some (n,[]) := by
    rw [number_pad,Nat.mod_eq_of_lt (by simpa using h)]
    simp
  have hne : pad 6 n ≠ [] := List.ne_nil_of_length_pos (by simp)
  simp only [readFraction,htake,hpad,hnumber,hne,if_false,Option.map_some]
  rw [List.drop_left]

/-- A time of day is read back, with or without a fraction. -/
theorem readTime_pad {s f : ℕ} (hs : s < 86400) (hf : f < 1000000) (rest : Text) :
    readTime (pad 2 (s / 3600) ++ ':' :: pad 2 (s / 60 % 60) ++ ':' :: pad 2 (s % 60) ++
      (if f = 0 then [] else '.' :: pad 6 f) ++ '+' :: rest) = some (s * 1000000 + f,'+' :: rest) := by
  have hsum : s / 3600 * 3600 + s / 60 % 60 * 60 + s % 60 = s := by omega
  have hbound : s / 3600 < 24 ∧ s / 60 % 60 < 60 := by omega
  simp only [List.append_assoc,List.cons_append,readTime,number_two (show s / 3600 < 100 by omega),
    number_two (show s / 60 % 60 < 100 by omega),number_two (show s % 60 < 100 by omega),Option.bind_eq_bind,Option.bind_some,
    skip_cons,hbound,and_self,not_true_eq_false,if_false,show s % 60 < 60 by omega,hsum]
  by_cases hzero : f = 0
  · have hskip : skip '.' ('+' :: rest) = none := by simp [skip]
    simp only [hzero,if_true,List.nil_append,hskip,Nat.add_zero]
  · simp only [hzero,if_false,List.cons_append,skip_cons,readFraction_pad hf (show digitValue '+' = none by decide),Option.bind_some]

/-- What is written is read back. -/
theorem fromisoformat_isoformat (t : Instant) : fromisoformat (isoformat t) = some ⟨true,t.micros⟩ := by
  have hdays : t.days < 3652059 := by
    have := t.bound
    rw [Instant.days]
    omega
  obtain ⟨hvalid,hdate⟩ := ofDays_spec t.days hdays
  have hseconds : t.seconds < 86400 := by
    rw [Instant.seconds]
    omega
  have hfraction : t.fraction < 1000000 := Nat.mod_lt _ (by decide)
  have htext : isoformat t = pad 4 (ofDays t.days).year ++ '-' :: pad 2 (ofDays t.days).month ++ '-' :: pad 2 (ofDays t.days).day ++
      'T' :: (pad 2 (t.seconds / 3600) ++ ':' :: pad 2 (t.seconds / 60 % 60) ++ ':' :: pad 2 (t.seconds % 60) ++
        (if t.fraction = 0 then [] else '.' :: pad 6 t.fraction) ++ '+' :: ['0','0',':','0','0']) := by
    simp only [isoformat,List.append_assoc,List.cons_append]
  have hoffset : readOffset ('+' :: ['0','0',':','0','0']) = some (some 0) := by decide
  rw [fromisoformat,htext,readDate_pad hvalid]
  simp only [Option.bind_eq_bind,Option.bind_some,readTime_pad hseconds hfraction,hoffset]
  rw [hdate,Instant.days,Instant.seconds,Instant.fraction]
  congr 2
  omega

theorem length_isoformat (t : Instant) : (isoformat t).length ≤ 32 := by
  simp only [isoformat,List.length_append,List.length_cons,length_pad,List.length_nil]
  split <;> simp

end Text

end CivilTime
end LocalPlane
