import LocalPlane.LineFraming
import LocalPlane.LineProtocol
import Mathlib.Data.Int.Notation

/-!
# What a collecting child has said

The child of a collection writes lines to a pipe: that it has begun to work, as often as it
likes, and then one result. The parent reads the pipe in whatever pieces it comes, under two
deadlines. However the pieces are cut, it takes the result of exactly the outputs that are such
lines and nothing else, unless a deadline passes first.
-/

set_option linter.dupNamespace false

namespace LocalPlane
namespace Collection

open Framing
open LineProtocol (Json Fields)

abbrev Bytes := List UInt8

def newline : UInt8 := 10

/-- Why nothing was received: `CollectionFailure` on a deadline, on too much output and on anything
else that is not one result, `ValueError`, `OSError`, and whatever else reading JSON raises. -/
inductive Failure where
  | timedOut | exceeded | incomplete | value | os | other
  deriving DecidableEq

/-- One round of the loop after the deadlines were looked at: nothing became readable, the read
raised, or it gave a piece, which is empty at the end of the output. -/
inductive Turn where
  | silent | failed
  | piece (bytes : Bytes)
  deriving DecidableEq

def outputBytes : ℕ := 512 * 1024
def totalMs : ℤ := 3000
def workMs : ℤ := 500

structure Intake where
  pending : Bytes
  received : ℕ
  answer : Option Fields
  workDeadline : ℤ
  readings : ℕ

def workEvent : Json := .obj [("event",.str "work")]

/-- What a message with a result and nothing else carries. -/
def resultOf : Json → Option Fields
  | .obj [(key,.obj fields)] => if key = "result" then some fields else none
  | _ => none

section Receive

variable (loads : Bytes → Except Failure Json) (clock : ℕ → ℤ)

def totalDeadline : ℤ := clock 0 + totalMs

def opening : Intake := ⟨[],0,none,totalDeadline clock,1⟩

namespace Intake

variable (s : Intake)

def take (line : Bytes) : Except Failure Intake := do
  let message ← loads line
  if message = workEvent ∧ s.answer = none then
    return { s with workDeadline := clock s.readings + workMs, readings := s.readings + 1 }
  match resultOf message,s.answer with
  | some fields,none => return { s with answer := some fields, workDeadline := totalDeadline clock }
  | _,_ => throw .incomplete

/-- Every line that has ended is taken, in order. -/
def absorb (piece : Bytes) : Except Failure Intake :=
  (cut newline (s.pending ++ piece)).1.foldlM (take loads clock)
    { s with received := s.received + piece.length, pending := (cut newline (s.pending ++ piece)).2 }

def finish : Except Failure Fields :=
  match s.answer with
  | some fields => if s.pending = [] then .ok fields else .error .incomplete
  | none => .error .incomplete

end Intake

/-- `_receive`, as far as the rounds go. -/
def receive : Intake → List Turn → Option (Except Failure Fields)
  | _,[] => none
  | s,turn :: rest =>
    if min (totalDeadline clock) s.workDeadline ≤ clock s.readings then some (.error .timedOut)
    else match turn with
      | .silent => some (.error .timedOut)
      | .failed => some (.error .os)
      | .piece [] => some s.finish
      | .piece (b :: bytes) =>
        if outputBytes < s.received + (b :: bytes).length then some (.error .exceeded)
        else match { s with readings := s.readings + 1 }.absorb loads clock (b :: bytes) with
          | .ok s => receive s rest
          | .error e => some (.error e)

/-- The journal's `_receive`: the output is one text, under one deadline. -/
def receiveText (limit : ℕ) (deadline : ℤ) : Bytes → ℕ → List Turn → Option (Except Failure Json)
  | _,_,[] => none
  | pending,readings,turn :: rest =>
    if deadline ≤ clock readings then some (.error .timedOut)
    else match turn with
      | .silent => some (.error .timedOut)
      | .failed => some (.error .os)
      | .piece [] => some (loads pending)
      | .piece (b :: bytes) =>
        if limit < pending.length + (b :: bytes).length then some (.error .value)
        else receiveText limit deadline (pending ++ b :: bytes) (readings + 1) rest

/-- What came through the pipe, if its end did. -/
def heard : List Turn → Option Bytes
  | .piece [] :: _ => some []
  | .piece (b :: bytes) :: rest => (heard rest).map (b :: bytes ++ ·)
  | _ => none

/-- The output of a child: lines that say it is at work, and then a line with its result. -/
structure Spoken (output : Bytes) (fields : Fields) : Prop where
  bounded : output.length ≤ outputBytes
  said : ∃ works line, output = ended newline (works ++ [line]) ∧ (∀ l ∈ works ++ [line], newline ∉ l) ∧
    (∀ l ∈ works, loads l = .ok workEvent) ∧ loads line = .ok (.obj [("result",.obj fields)])

section Rounds

variable {loads : Bytes → Except Failure Json} {clock : ℕ → ℤ} {s s' : Intake} {lines : List Bytes} {line : Bytes}
  {fields : Fields} {answer : Option Fields}

theorem resultOf_eq_some {message : Json} : resultOf message = some fields ↔ message = .obj [("result",.obj fields)] := by
  constructor
  · intro h
    unfold resultOf at h
    split at h
    · split at h
      · next hkey => cases h; rw [hkey]
      · cases h
    · cases h
  · rintro rfl
    rfl

variable (loads) in
/-- What lines that were all taken have come to. -/
def Progress (lines : List Bytes) : Option Fields → Prop
  | none => ∀ l ∈ lines, loads l = .ok workEvent
  | some fields => ∃ works line, lines = works ++ [line] ∧ (∀ l ∈ works, loads l = .ok workEvent) ∧
    loads line = .ok (.obj [("result",.obj fields)])

/-- A line that is taken says that the child is at work, or is the first result. -/
theorem take_cases (h : s.take loads clock line = .ok s') : s.answer = none ∧ s'.pending = s.pending ∧
    s'.received = s.received ∧ ((loads line = .ok workEvent ∧ s'.answer = none) ∨
      ∃ fields, loads line = .ok (.obj [("result",.obj fields)]) ∧ s'.answer = some fields) := by
  unfold Intake.take at h
  cases hload : loads line with
  | error e => rw [hload] at h; cases h
  | ok message =>
    rw [hload] at h
    by_cases hwork : message = workEvent ∧ s.answer = none
    · simp only [bind,Except.bind,if_pos hwork] at h
      cases h
      exact ⟨hwork.2,rfl,rfl,.inl ⟨by rw [hwork.1],hwork.2⟩⟩
    · simp only [bind,Except.bind,if_neg hwork] at h
      split at h
      · next fields hresult hnone =>
        cases h
        exact ⟨hnone,rfl,rfl,.inr ⟨fields,by rw [resultOf_eq_some.mp hresult],rfl⟩⟩
      · cases h

theorem take_work (hload : loads line = .ok workEvent) (hnone : s.answer = none) :
    ∃ s', s.take loads clock line = .ok s' ∧ s'.answer = none := by
  refine ⟨{ s with workDeadline := clock s.readings + workMs, readings := s.readings + 1 },?_,hnone⟩
  simp [Intake.take,hload,hnone,bind,Except.bind,pure,Except.pure]

theorem take_result (hload : loads line = .ok (.obj [("result",.obj fields)])) (hnone : s.answer = none) :
    ∃ s', s.take loads clock line = .ok s' ∧ s'.answer = some fields := by
  refine ⟨{ s with answer := some fields, workDeadline := totalDeadline clock },?_,rfl⟩
  have hother : Json.obj [("result",.obj fields)] ≠ workEvent := by simp [workEvent]
  simp [Intake.take,hload,hnone,hother,resultOf,bind,Except.bind,pure,Except.pure]

theorem Progress.snoc (h : Progress loads lines s.answer) (ht : s.take loads clock line = .ok s') :
    Progress loads (lines ++ [line]) s'.answer := by
  obtain ⟨hnone,-,-,⟨hwork,hs'⟩ | ⟨fields,hresult,hs'⟩⟩ := take_cases ht
  · rw [hnone] at h
    rw [hs']
    intro l hl
    rcases List.mem_append.mp hl with hl | hl
    · exact h l hl
    · exact List.mem_singleton.mp hl ▸ hwork
  · rw [hnone] at h
    rw [hs']
    exact ⟨lines,line,rfl,h,hresult⟩

theorem fold_frame {more : List Bytes} (ht : more.foldlM (Intake.take loads clock) s = .ok s') :
    s'.pending = s.pending ∧ s'.received = s.received := by
  induction more generalizing s with
  | nil =>
    cases ht
    exact ⟨rfl,rfl⟩
  | cons line more ih =>
    rw [List.foldlM_cons] at ht
    cases hline : s.take loads clock line with
    | error e => rw [hline] at ht; cases ht
    | ok t =>
      rw [hline] at ht
      obtain ⟨-,hpending,hreceived,-⟩ := take_cases hline
      obtain ⟨hp,hr⟩ := ih ht
      exact ⟨hp.trans hpending,hr.trans hreceived⟩

theorem Progress.fold {more : List Bytes} (h : Progress loads lines s.answer)
    (ht : more.foldlM (Intake.take loads clock) s = .ok s') : Progress loads (lines ++ more) s'.answer := by
  induction more generalizing lines s with
  | nil =>
    cases ht
    exact (List.append_nil lines).symm ▸ h
  | cons line more ih =>
    rw [List.foldlM_cons] at ht
    cases hline : s.take loads clock line with
    | error e => rw [hline] at ht; cases ht
    | ok t =>
      rw [hline] at ht
      simpa using ih (h.snoc hline) ht

/-- Before the last line there is nothing but lines that say the child is at work. -/
theorem Progress.init {more : List Bytes} (h : Progress loads (lines ++ line :: more) (some fields)) :
    ∀ l ∈ lines, loads l = .ok workEvent := by
  obtain ⟨works,last,hsplit,hworks,-⟩ := h
  intro l hl
  have hinit : works = (lines ++ line :: more).dropLast := by rw [hsplit,List.dropLast_concat]
  rw [List.dropLast_append_of_ne_nil (List.cons_ne_nil _ _)] at hinit
  exact hworks l (hinit ▸ List.mem_append_left _ hl)

/-- Lines that come to a result are taken as far as they go. -/
theorem Progress.taken {more rest : List Bytes} (h : ∀ l ∈ lines, loads l = .ok workEvent) (hs : s.answer = none)
    (hwhole : Progress loads (lines ++ (more ++ rest)) (some fields)) :
    ∃ s', more.foldlM (Intake.take loads clock) s = .ok s' := by
  induction more generalizing lines s with
  | nil => exact ⟨s,rfl⟩
  | cons line more ih =>
    rw [List.foldlM_cons]
    cases htail : more ++ rest with
    | nil =>
      obtain ⟨rfl,rfl⟩ := List.append_eq_nil_iff.mp htail
      obtain ⟨works,last,hsplit,-,hlast⟩ := hwhole
      obtain ⟨-,rfl⟩ : lines = works ∧ line = last := by simpa using hsplit
      obtain ⟨s',hs',-⟩ : ∃ s', s.take loads clock line = .ok s' ∧ s'.answer = some fields := take_result hlast hs
      exact ⟨s',by rw [hs']; rfl⟩
    | cons next tail =>
      have hline : loads line = .ok workEvent := by
        have hinit : Progress loads ((lines ++ [line]) ++ next :: tail) (some fields) := by simpa [htail] using hwhole
        exact hinit.init line (by simp)
      obtain ⟨s',hs',hnone⟩ : ∃ s', s.take loads clock line = .ok s' ∧ s'.answer = none := take_work hline hs
      have hlines : ∀ l ∈ lines ++ [line], loads l = .ok workEvent := by
        intro l hl
        rcases List.mem_append.mp hl with hl | hl
        · exact h l hl
        · exact List.mem_singleton.mp hl ▸ hline
      obtain ⟨t,ht⟩ := ih hlines hnone (by simpa using hwhole)
      exact ⟨t,by rw [hs']; exact ht⟩

theorem Progress.absorbed {more rest : List Bytes} (h : Progress loads lines s.answer)
    (hwhole : Progress loads (lines ++ (more ++ rest)) (some fields)) :
    ∃ s', more.foldlM (Intake.take loads clock) s = .ok s' := by
  cases ha : s.answer with
  | none =>
    rw [ha] at h
    exact Progress.taken h ha hwhole
  | some taken =>
    rw [ha] at h
    obtain ⟨works,last,rfl,-,hlast⟩ := h
    cases more with
    | nil => exact ⟨s,rfl⟩
    | cons line more =>
      have hwork : loads last = .ok workEvent := hwhole.init last (by simp)
      rw [hwork] at hlast
      simp [workEvent] at hlast

variable (loads) in
/-- The state after some output that was taken, whatever pieces it came in. -/
structure Follows (output : Bytes) (s : Intake) : Prop where
  pending : s.pending = (cut newline output).2
  received : s.received = output.length
  bounded : output.length ≤ outputBytes
  progress : Progress loads (cut newline output).1 s.answer

theorem Follows.absorb {output piece : Bytes} (h : Follows loads output s) (hbound : output.length + piece.length ≤ outputBytes)
    (ht : s.absorb loads clock piece = .ok s') : Follows loads (output ++ piece) s' := by
  unfold Intake.absorb at ht
  rw [h.pending] at ht
  obtain ⟨hpending,hreceived⟩ := fold_frame ht
  have hcut := cut_append newline output piece
  have hbefore : Progress loads (cut newline output).1
      { s with received := s.received + piece.length, pending := (cut newline ((cut newline output).2 ++ piece)).2 }.answer := h.progress
  have hprogress := hbefore.fold ht
  refine ⟨hpending.trans ?_,hreceived.trans ?_,by rwa [List.length_append],?_⟩
  · rw [hcut]
  · rw [List.length_append,h.received]
  · rwa [hcut]

theorem follows_opening : Follows loads [] (opening clock) :=
  ⟨rfl,rfl,Nat.zero_le _,fun _ h => absurd h List.not_mem_nil⟩

theorem Spoken.cut {output : Bytes} (h : Spoken loads output fields) :
    Progress loads (cut newline output).1 (some fields) ∧ (Framing.cut newline output).2 = [] := by
  obtain ⟨-,works,line,rfl,hopen,hworks,hline⟩ := h
  have hcut := cut_ended hopen []
  rw [List.append_nil] at hcut
  simp only [Framing.cut,List.append_nil] at hcut
  rw [hcut]
  exact ⟨⟨works,line,rfl,hworks,hline⟩,rfl⟩

/-- At the end of the output there is a result exactly where there is one in all of it. -/
theorem Follows.finish {output : Bytes} (h : Follows loads output s) : s.finish = .ok fields ↔ Spoken loads output fields := by
  obtain ⟨hjoin,hlines,-⟩ := cut_sound newline output
  have hprogress := h.progress
  unfold Intake.finish
  constructor
  · intro hfinish
    cases ha : s.answer with
    | none => rw [ha] at hfinish; cases hfinish
    | some taken =>
      rw [ha] at hfinish hprogress
      dsimp only at hfinish
      by_cases hp : s.pending = []
      · rw [if_pos hp] at hfinish
        cases hfinish
        obtain ⟨works,line,hsplit,hworks,hline⟩ := hprogress
        rw [h.pending] at hp
        rw [hp,List.append_nil] at hjoin
        exact ⟨h.bounded,works,line,hsplit ▸ hjoin,hsplit ▸ hlines,hworks,hline⟩
      · rw [if_neg hp] at hfinish
        cases hfinish
  · intro hspoken
    obtain ⟨⟨works,line,hcut,hworks,hline⟩,hend⟩ := hspoken.cut
    have hp : s.pending = [] := h.pending.trans hend
    rw [hcut] at hprogress
    cases ha : s.answer with
    | none =>
      rw [ha] at hprogress
      have hwork := hprogress line (by simp)
      rw [hwork] at hline
      simp [workEvent] at hline
    | some taken =>
      rw [ha] at hprogress
      obtain ⟨_,last,hsplit,-,hlast⟩ := hprogress
      obtain ⟨-,rfl⟩ : works = _ ∧ line = last := by simpa using hsplit
      rw [hline] at hlast
      simp only [Except.ok.injEq,Json.obj.injEq,List.cons.injEq,Prod.mk.injEq,true_and,and_true] at hlast
      dsimp only
      rw [if_pos hp,hlast]

/-- What is received is what the whole output says. -/
theorem Follows.receive {output : Bytes} {turns : List Turn} (h : Follows loads output s)
    (hr : Collection.receive loads clock s turns = some (.ok fields)) :
    ∃ rest, heard turns = some rest ∧ Spoken loads (output ++ rest) fields := by
  induction turns generalizing output s with
  | nil => cases hr
  | cons turn turns ih =>
    unfold Collection.receive at hr
    split at hr
    · cases hr
    · cases turn with
      | silent => cases hr
      | failed => cases hr
      | piece bytes =>
        cases bytes with
        | nil =>
          have hfinish : s.finish = .ok fields := Option.some.inj hr
          exact ⟨[],rfl,(List.append_nil output).symm ▸ h.finish.mp hfinish⟩
        | cons b bytes =>
          dsimp only at hr
          split at hr
          · cases hr
          · next hbound =>
            split at hr
            · next t ht =>
              have hfollows : Follows loads output { s with readings := s.readings + 1 } := ⟨h.pending,h.received,h.bounded,h.progress⟩
              obtain ⟨rest,hheard,hspoken⟩ := ih (hfollows.absorb (by rw [← h.received]; omega) ht) hr
              exact ⟨b :: bytes ++ rest,by rw [heard,hheard]; rfl,by rwa [← List.append_assoc]⟩
            · cases hr

theorem Follows.spoken {output rest : Bytes} {turns : List Turn} (h : Follows loads output s) (hheard : heard turns = some rest)
    (hspoken : Spoken loads (output ++ rest) fields) : Collection.receive loads clock s turns = some (.ok fields) ∨
      Collection.receive loads clock s turns = some (.error .timedOut) := by
  induction turns generalizing output rest s with
  | nil => cases hheard
  | cons turn turns ih =>
    unfold Collection.receive
    split
    · exact .inr rfl
    · cases turn with
      | silent => cases hheard
      | failed => cases hheard
      | piece bytes =>
        cases bytes with
        | nil =>
          cases hheard
          rw [List.append_nil] at hspoken
          exact .inl (congrArg some (h.finish.mpr hspoken))
        | cons b bytes =>
          obtain ⟨tail,htail,rfl⟩ := Option.map_eq_some_iff.mp hheard
          have hlong := hspoken.bounded
          simp only [List.length_append] at hlong
          have hfollows : Follows loads output { s with readings := s.readings + 1 } := ⟨h.pending,h.received,h.bounded,h.progress⟩
          obtain ⟨t,ht⟩ : ∃ t, Intake.absorb loads clock { s with readings := s.readings + 1 } (b :: bytes) = .ok t := by
            have hwhole := hspoken.cut.1
            rw [← List.append_assoc,cut_append,cut_append,List.append_assoc] at hwhole
            unfold Intake.absorb
            rw [hfollows.pending]
            exact Progress.absorbed h.progress hwhole
          dsimp only
          rw [if_neg (by rw [h.received]; omega),ht]
          refine ih (hfollows.absorb (by omega) ht) htail ?_
          rwa [List.append_assoc]

/-- A round that is not the last takes at least one byte, and the output is bounded. -/
theorem receive_ends {turns : List Turn} (hr : s.received ≤ outputBytes) (hwait : receive loads clock s turns = none) :
    turns.length + s.received ≤ outputBytes := by
  induction turns generalizing s with
  | nil => simpa using hr
  | cons turn turns ih =>
    unfold receive at hwait
    split at hwait
    · cases hwait
    · cases turn with
      | silent => cases hwait
      | failed => cases hwait
      | piece bytes =>
        cases bytes with
        | nil => cases hwait
        | cons b bytes =>
          dsimp only at hwait
          split at hwait
          · cases hwait
          · next hbound =>
            split at hwait
            · next t ht =>
              have hreceived : t.received = s.received + (b :: bytes).length := (fold_frame ht).2
              have hrest := ih (by omega) hwait
              simp only [List.length_cons] at hreceived hrest ⊢
              omega
            · cases hwait

end Rounds

/-- What `_receive` answers hangs on the output as a whole: it is the result of an output that says it, whatever
pieces it came in, unless a deadline passes; and there is an end to the rounds. -/
theorem receive_exact (turns : List Turn) :
    (∀ fields, receive loads clock (opening clock) turns = some (.ok fields) →
      ∃ output, heard turns = some output ∧ Spoken loads output fields) ∧
    (∀ fields output, heard turns = some output → Spoken loads output fields →
      receive loads clock (opening clock) turns = some (.ok fields) ∨
        receive loads clock (opening clock) turns = some (.error .timedOut)) ∧
    (outputBytes < turns.length → (receive loads clock (opening clock) turns).isSome) := by
  refine ⟨fun fields h => ?_,fun fields output hheard hspoken => ?_,fun hlong => ?_⟩
  · exact follows_opening.receive h
  · exact follows_opening.spoken hheard hspoken
  · cases hwait : receive loads clock (opening clock) turns with
    | some _ => rfl
    | none =>
      have hbound := receive_ends (Nat.zero_le _) hwait
      have hzero : (opening clock).received = 0 := rfl
      omega

theorem receiveText_ok {limit : ℕ} {deadline : ℤ} {pending : Bytes} {readings : ℕ} {turns : List Turn} {message : Json}
    (h : receiveText loads clock limit deadline pending readings turns = some (.ok message)) :
    ∃ output, heard turns = some output ∧ loads (pending ++ output) = .ok message := by
  induction turns generalizing pending readings with
  | nil => cases h
  | cons turn turns ih =>
    unfold receiveText at h
    split at h
    · cases h
    · cases turn with
      | silent => cases h
      | failed => cases h
      | piece bytes =>
        cases bytes with
        | nil => exact ⟨[],rfl,(List.append_nil pending).symm ▸ Option.some.inj h⟩
        | cons b bytes =>
          dsimp only at h
          split at h
          · cases h
          · obtain ⟨rest,hheard,hloads⟩ := ih h
            exact ⟨b :: bytes ++ rest,by rw [heard,hheard]; rfl,by rwa [← List.append_assoc]⟩

end Receive

end Collection
end LocalPlane
