import Mathlib.Algebra.Group.Nat.Defs
import Mathlib.Data.List.TakeWhile
import Mathlib.Tactic.Common

/-!
# Lines of text

A text is cut into lines at every character that ends one. There are more of these than the
line feed, and a carriage return and the line feed after it end one line between them.
-/

set_option linter.dupNamespace false

namespace LocalPlane
namespace TextLines

/-- The characters at which `str.splitlines` ends a line. -/
def lineBreak (c : Char) : Bool := c.toNat ∈ [10,11,12,13,28,29,30,133,8232,8233]

/-- A character in front of the lines that follow it. -/
def inFront (c : Char) : List (List Char) → List (List Char)
  | [] => [[c]]
  | line :: lines => (c :: line) :: lines

/-- `str.splitlines(keepends=True)`. -/
def linesKept : List Char → List (List Char)
  | [] => []
  | '\r' :: '\n' :: text => ['\r','\n'] :: linesKept text
  | c :: text => if lineBreak c then [c] :: linesKept text else inFront c (linesKept text)

/-- `str.splitlines()`. -/
def splitlines (text : List Char) : List (List Char) := (linesKept text).map (·.takeWhile (!lineBreak ·))

/-- A break is no line feed. -/
def Foreign (c : Char) : Prop := lineBreak c = true ∧ c ≠ '\n'

instance (c : Char) : Decidable (Foreign c) := inferInstanceAs (Decidable (_ ∧ _))

variable {c : Char} {line text : List Char}

@[simp] theorem linesKept_nil : linesKept [] = [] := by rw [linesKept]

@[simp] theorem splitlines_nil : splitlines [] = [] := by simp [splitlines]

theorem linesKept_plain (h : lineBreak c = false) : linesKept (c :: text) = inFront c (linesKept text) := by
  rw [linesKept]
  · simp [h]
  · rintro text rfl
    simp [lineBreak] at h

/-- A line feed that follows no carriage return ends a line of its own. -/
theorem linesKept_feed : linesKept ('\n' :: text) = ['\n'] :: linesKept text := by
  rw [linesKept]
  · rfl
  · rintro text h
    simp at h

theorem linesKept_line (h : ∀ c ∈ line, lineBreak c = false) :
    linesKept (line ++ '\n' :: text) = (line ++ ['\n']) :: linesKept text := by
  induction line with
  | nil => exact linesKept_feed
  | cons c line ih =>
    rw [List.cons_append,linesKept_plain (h c (by simp)),ih fun c hc => h c (by simp [hc])]
    rfl

theorem linesKept_last (h : ∀ c ∈ line, lineBreak c = false) (hne : line ≠ []) : linesKept line = [line] := by
  induction line with
  | nil => exact absurd rfl hne
  | cons c line ih =>
    rw [linesKept_plain (h c (by simp))]
    cases line with
    | nil => simp [inFront]
    | cons d line => rw [ih (fun c hc => h c (by simp [hc])) (by simp)]; rfl

theorem takeWhile_plain (h : ∀ c ∈ line, lineBreak c = false) : line.takeWhile (!lineBreak ·) = line :=
  List.takeWhile_eq_self_iff.mpr fun c hc => by simp [h c hc]

theorem splitlines_line (h : ∀ c ∈ line, lineBreak c = false) :
    splitlines (line ++ '\n' :: text) = line :: splitlines text := by
  have hline : (line ++ ['\n']).takeWhile (!lineBreak ·) = line := by
    rw [List.takeWhile_append_of_pos fun c hc => by simp [h c hc]]
    simp [lineBreak]
  simp only [splitlines,linesKept_line h,List.map_cons,hline]

theorem splitlines_last (h : ∀ c ∈ line, lineBreak c = false) (hne : line ≠ []) : splitlines line = [line] := by
  simp only [splitlines,linesKept_last h hne,List.map_cons,takeWhile_plain h,List.map_nil]

/-- A character that ends no line begins one. -/
theorem exists_splitlines (h : lineBreak c = false) (text : List Char) : ∃ line ∈ splitlines (c :: text), c ∈ line := by
  rw [splitlines,linesKept_plain h]
  cases linesKept text with
  | nil => exact ⟨[c],by simp [inFront,h]⟩
  | cons kept lines => exact ⟨c :: kept.takeWhile (!lineBreak ·),by simp [inFront,h]⟩

/-- No line holds a break. -/
theorem plain_of_mem_splitlines (h : line ∈ splitlines text) : ∀ c ∈ line, lineBreak c = false := by
  obtain ⟨kept,-,rfl⟩ := List.mem_map.mp h
  intro c hc
  simpa using List.mem_takeWhile_imp hc

end TextLines
end LocalPlane
