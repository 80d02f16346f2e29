import Mathlib.Data.List.Basic
import Mathlib.Data.Nat.Notation
import Mathlib.Tactic.Common

/-!
# Lines in a stream

A stream is cut at a separator into the lines that have ended and what is still open. Pieces
may come in any sizes: cutting what has come so far and then the rest is cutting all of it. A
reader that takes one line at a time, and never more than a bound, takes the same lines.
-/

set_option linter.dupNamespace false

namespace LocalPlane
namespace Framing

variable {α : Type} [DecidableEq α] (sep : α)

/-- The lines that have ended, and what stands after the last of them. -/
def cut : List α → List (List α) × List α
  | [] => ([],[])
  | a :: rest =>
    if a = sep then ([] :: (cut rest).1,(cut rest).2)
    else match (cut rest).1 with
      | [] => ([],a :: (cut rest).2)
      | line :: lines => ((a :: line) :: lines,(cut rest).2)

def ended (lines : List (List α)) : List α := lines.flatMap (· ++ [sep])

/-- One line with its separator, or as much as the bound lets be taken; nothing where there is neither yet. -/
def upTo : ℕ → List α → Option (List α × List α)
  | 0,stream => some ([],stream)
  | _ + 1,[] => none
  | n + 1,a :: rest => if a = sep then some ([a],rest) else (upTo n rest).map fun taken => (a :: taken.1,taken.2)

variable {sep} {line : List α} {n : ℕ}

/-- What ends no line stands before whatever comes. -/
theorem cut_open {pending : List α} (h : sep ∉ pending) : cut sep pending = ([],pending) := by
  induction pending with
  | nil => rfl
  | cons a rest ih =>
    obtain ⟨ha,hrest⟩ := not_or.mp fun hmem => h (List.mem_cons.mpr hmem)
    rw [cut,if_neg (Ne.symm ha),ih hrest]

theorem cut_line (h : sep ∉ line) (rest : List α) :
    cut sep (line ++ sep :: rest) = (line :: (cut sep rest).1,(cut sep rest).2) := by
  induction line with
  | nil => simp [cut]
  | cons a line ih =>
    obtain ⟨ha,hline⟩ := not_or.mp fun hmem => h (List.mem_cons.mpr hmem)
    rw [List.cons_append,cut,if_neg (Ne.symm ha),ih hline]

theorem cut_ended {lines : List (List α)} (h : ∀ line ∈ lines, sep ∉ line) (rest : List α) :
    cut sep (ended sep lines ++ rest) = (lines ++ (cut sep rest).1,(cut sep rest).2) := by
  induction lines with
  | nil => rfl
  | cons line lines ih =>
    have hrest := ih fun l hl => h l (List.mem_cons_of_mem _ hl)
    have hline := cut_line (h line List.mem_cons_self) (ended sep lines ++ rest)
    have hjoin : ended sep (line :: lines) ++ rest = line ++ sep :: (ended sep lines ++ rest) := by
      simp only [ended,List.flatMap_cons,List.append_assoc,List.cons_append,List.nil_append]
    rw [hjoin,hline,hrest]
    rfl

theorem cut_sound (sep : α) (stream : List α) : stream = ended sep (cut sep stream).1 ++ (cut sep stream).2 ∧
    (∀ line ∈ (cut sep stream).1, sep ∉ line) ∧ sep ∉ (cut sep stream).2 := by
  induction stream with
  | nil => simp [cut,ended]
  | cons a rest ih =>
    obtain ⟨hjoin,hlines,htail⟩ := ih
    by_cases ha : a = sep
    · rw [cut,if_pos ha]
      refine ⟨?_,fun line hline => ?_,htail⟩
      · simp only [ended,List.flatMap_cons,List.nil_append,List.cons_append,ha]
        exact congrArg _ hjoin
      · rcases List.mem_cons.mp hline with rfl | hline
        · exact List.not_mem_nil
        · exact hlines line hline
    · rw [cut,if_neg ha]
      cases hcut : (cut sep rest).1 with
      | nil =>
        rw [hcut] at hjoin
        refine ⟨congrArg _ hjoin,fun _ h => absurd h List.not_mem_nil,?_⟩
        exact fun h => (List.mem_cons.mp h).elim (fun h => ha h.symm) htail
      | cons first lines =>
        rw [hcut] at hjoin hlines
        refine ⟨congrArg _ hjoin,fun line hline => ?_,htail⟩
        rcases List.mem_cons.mp hline with rfl | hline
        · exact fun h => (List.mem_cons.mp h).elim (fun h => ha h.symm) (hlines first List.mem_cons_self)
        · exact hlines line (List.mem_cons_of_mem _ hline)

/-- What is left open is put before the next piece. -/
theorem cut_append (sep : α) (stream piece : List α) : cut sep (stream ++ piece) =
    ((cut sep stream).1 ++ (cut sep ((cut sep stream).2 ++ piece)).1,(cut sep ((cut sep stream).2 ++ piece)).2) := by
  obtain ⟨hjoin,hlines,-⟩ := cut_sound sep stream
  conv_lhs => rw [hjoin,List.append_assoc]
  exact cut_ended hlines _

theorem upTo_line (h : sep ∉ line) (hlength : line.length < n) (rest : List α) :
    upTo sep n (line ++ sep :: rest) = some (line ++ [sep],rest) := by
  induction line generalizing n with
  | nil =>
    obtain ⟨n,rfl⟩ := Nat.exists_eq_succ_of_ne_zero (Nat.ne_zero_of_lt hlength)
    simp [upTo]
  | cons a line ih =>
    obtain ⟨n,rfl⟩ := Nat.exists_eq_succ_of_ne_zero (Nat.ne_zero_of_lt hlength)
    obtain ⟨ha,hline⟩ := not_or.mp fun hmem => h (List.mem_cons.mpr hmem)
    rw [List.cons_append,upTo,if_neg (Ne.symm ha),ih hline (Nat.lt_of_succ_lt_succ hlength)]
    rfl

theorem upTo_open {stream : List α} (h : sep ∉ stream) (hlength : stream.length < n) : upTo sep n stream = none := by
  induction stream generalizing n with
  | nil =>
    obtain ⟨n,rfl⟩ := Nat.exists_eq_succ_of_ne_zero (Nat.ne_zero_of_lt hlength)
    rfl
  | cons a rest ih =>
    obtain ⟨n,rfl⟩ := Nat.exists_eq_succ_of_ne_zero (Nat.ne_zero_of_lt hlength)
    obtain ⟨ha,hrest⟩ := not_or.mp fun hmem => h (List.mem_cons.mpr hmem)
    rw [upTo,if_neg (Ne.symm ha),ih hrest (Nat.lt_of_succ_lt_succ hlength)]
    rfl

/-- Without a separator before it the bound is what is taken. -/
theorem upTo_long (h : sep ∉ line) (hlength : n ≤ line.length) (rest : List α) :
    upTo sep n (line ++ rest) = some (line.take n,line.drop n ++ rest) := by
  induction n generalizing line with
  | zero => rfl
  | succ n ih =>
    cases line with
    | nil => cases hlength
    | cons a line =>
      obtain ⟨ha,hline⟩ := not_or.mp fun hmem => h (List.mem_cons.mpr hmem)
      rw [List.cons_append,upTo,if_neg (Ne.symm ha),ih hline (Nat.le_of_succ_le_succ hlength)]
      rfl

/-- More behind what has come changes nothing in what is taken. -/
theorem upTo_append {stream taken left : List α} (h : upTo sep n stream = some (taken,left)) (more : List α) :
    upTo sep n (stream ++ more) = some (taken,left ++ more) := by
  induction n generalizing stream taken with
  | zero =>
    cases h
    rfl
  | succ n ih =>
    cases stream with
    | nil => cases h
    | cons a rest =>
      rw [upTo] at h
      rw [List.cons_append,upTo]
      split at h
      · next ha =>
        cases h
        rw [if_pos ha]
      · next ha =>
        obtain ⟨⟨line,tail⟩,hline,heq⟩ := Option.map_eq_some_iff.mp h
        cases heq
        rw [if_neg ha,ih hline]
        rfl

end Framing
end LocalPlane
