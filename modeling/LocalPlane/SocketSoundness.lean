import LocalPlane.SocketDiag
import Mathlib.Algebra.GroupWithZero.Nat

/-!
# What a socket lookup rests on

A lookup concludes from the messages of its own sequence up to the end marker. What it
concludes is sound exactly when those frames were read to their end: nothing left over that
could not be taken apart, no socket message that was cut short, and no further match behind
the end marker.
-/

set_option linter.dupNamespace false

namespace LocalPlane
namespace SocketDiag

open Netlink

/-! The dump as it arrived -/

def ownMessages (sequence : ℕ) (messages : List Message) : List Message := messages.filter (·.sequence = sequence)

/-- The messages of the own sequence that stand before its end marker. -/
def heardOf (sequence : ℕ) (messages : List Message) : List Message :=
  (ownMessages sequence messages).takeWhile (·.kind ≠ nlmsgDone)

def endsIn (sequence : ℕ) (messages : List Message) : Bool := (ownMessages sequence messages).any (·.kind = nlmsgDone)

def own (sequence : ℕ) (frame : Bytes) : List Message := ownMessages sequence (iterNetlink frame)
def heard (sequence : ℕ) (frame : Bytes) : List Message := heardOf sequence (iterNetlink frame)

/-- The frames up to the one with the end marker of the own sequence, where it arrives. -/
def dump (sequence : ℕ) : List Arrival → Option (List Bytes)
  | .frame payload :: rest =>
    if endsIn sequence (iterNetlink (payload.take receiveBytes)) then some [payload.take receiveBytes]
    else (dump sequence rest).map (payload.take receiveBytes :: ·)
  | _ => none

section Heard

variable {sequence : ℕ} {m : Message} {messages : List Message}

theorem heardOf_foreign (h : m.sequence ≠ sequence) : heardOf sequence (m :: messages) = heardOf sequence messages := by
  simp [heardOf,ownMessages,h]

theorem heardOf_done (h : m.sequence = sequence) (hk : m.kind = nlmsgDone) : heardOf sequence (m :: messages) = [] := by
  simp [heardOf,ownMessages,h,hk]

theorem heardOf_own (h : m.sequence = sequence) (hk : m.kind ≠ nlmsgDone) :
    heardOf sequence (m :: messages) = m :: heardOf sequence messages := by
  simp [heardOf,ownMessages,h,hk]

theorem endsIn_cons : endsIn sequence (m :: messages) =
    (decide (m.sequence = sequence) && decide (m.kind = nlmsgDone) || endsIn sequence messages) := by
  by_cases h : m.sequence = sequence <;> simp [endsIn,ownMessages,h]

end Heard

/-! What reading makes of it -/

section Reading

variable {query : TcpSocketTuple} {sequence : ℕ} {limits : Limits}

/-- What the messages heard add to a tally. -/
def Tally.after (query : TcpSocketTuple) (t : Tally) (heard : List Message) : Tally :=
  ⟨t.inspected + heard.countP (·.kind = sockDiagByFamily),t.matched ++ (heard.filterMap query.established).map Decoded.remembered⟩

/-- No error is among the messages heard, and they are not too many. -/
def CalmFrom (limits : Limits) (t : Tally) (heard : List Message) : Prop :=
  (∀ m ∈ heard, m.kind = nlmsgError → errorCode m = 0) ∧
    t.inspected + heard.countP (·.kind = sockDiagByFamily) ≤ limits.maxMessages

theorem after_nil (t : Tally) : t.after query [] = t := by
  simp [Tally.after]

theorem after_append (t : Tally) (heard more : List Message) :
    (t.after query heard).after query more = t.after query (heard ++ more) := by
  simp [Tally.after,Nat.add_assoc]

variable (query) in
theorem calmFrom_append {t : Tally} {heard more : List Message} :
    CalmFrom limits t (heard ++ more) ↔ CalmFrom limits t heard ∧ CalmFrom limits (t.after query heard) more := by
  unfold CalmFrom Tally.after
  simp only [List.mem_append,List.countP_append]
  constructor
  · rintro ⟨he,hc⟩
    exact ⟨⟨fun m hm => he m (.inl hm),by omega⟩,fun m hm => he m (.inr hm),by omega⟩
  · rintro ⟨⟨he,_⟩,he',hc⟩
    exact ⟨fun m hm => hm.elim (he m) (he' m),by omega⟩

/-- Reading has come to an error. -/
def Stop.Broken : Stop → Prop
  | .going | .done => False
  | .failed _ _ | .raised => True

variable (query) in
/-- One message that is neither foreign nor the end marker: it is counted, or reading breaks off. -/
theorem readMessage_own {t : Tally} (ht : t.inspected ≤ limits.maxMessages) {m : Message} (hs : m.sequence = sequence)
    (hk : m.kind ≠ nlmsgDone) :
    CalmFrom limits t [m] ∧ readMessage query sequence limits t m = (t.after query [m],.going) ∨
      ¬CalmFrom limits t [m] ∧ (readMessage query sequence limits t m).2.Broken := by
  unfold readMessage
  rw [if_neg (not_not.mpr hs),if_neg hk]
  by_cases he : m.kind = nlmsgError
  · have hd : m.kind ≠ sockDiagByFamily := by rw [he]; decide
    rw [if_pos he]
    by_cases hc : errorCode m = 0
    · left
      simp [CalmFrom,Tally.after,hc,hd,ht,TcpSocketTuple.established]
    · right
      refine ⟨fun h => hc (h.1 m (by simp) he),?_⟩
      rw [if_neg hc]
      split <;> trivial
  · rw [if_neg he]
    by_cases hd : m.kind = sockDiagByFamily
    · rw [if_neg (not_not.mpr hd)]
      have hcalm : CalmFrom limits t [m] ↔ t.inspected + 1 ≤ limits.maxMessages := by
        have hapart : sockDiagByFamily ≠ nlmsgError := by decide
        simp [CalmFrom,hd,hapart]
      by_cases hlimit : limits.maxMessages < t.inspected + 1
      · right
        refine ⟨fun h => absurd (hcalm.mp h) (by omega),?_⟩
        rw [if_pos hlimit]
        trivial
      · left
        refine ⟨hcalm.mpr (by omega),?_⟩
        rw [if_neg hlimit]
        have hestablished : query.established m = (decodeDiagMessage m.body).filter fun d =>
            d.family = query.family.number && query.isMatch d := if_pos hd
        cases hdecoded : decodeDiagMessage m.body with
        | none =>
          rw [hdecoded] at hestablished
          simp [Tally.after,hd,hestablished]
        | some d =>
          rw [hdecoded] at hestablished
          by_cases hf : d.family = query.family.number <;> cases hm : query.isMatch d <;>
            simp [Tally.after,hd,hestablished,hf,hm,Option.filter]
    · left
      rw [if_pos hd]
      simp [CalmFrom,Tally.after,he,hd,ht,TcpSocketTuple.established]

variable (query sequence) in
/-- A frame's messages up to the end marker are all counted, or reading breaks off among them. -/
theorem readMessages_spec {t : Tally} (ht : t.inspected ≤ limits.maxMessages) (messages : List Message) :
    CalmFrom limits t (heardOf sequence messages) ∧ readMessages query sequence limits t messages =
        (t.after query (heardOf sequence messages),if endsIn sequence messages then .done else .going) ∨
      ¬CalmFrom limits t (heardOf sequence messages) ∧ (readMessages query sequence limits t messages).2.Broken := by
  induction messages generalizing t with
  | nil =>
    left
    simp [CalmFrom,heardOf,ownMessages,endsIn,readMessages,after_nil,ht]
  | cons m rest ih =>
    by_cases hs : m.sequence = sequence
    · by_cases hk : m.kind = nlmsgDone
      · -- nothing after the end marker is read
        left
        have hread : readMessage query sequence limits t m = (t,.done) := by simp [readMessage,hs,hk]
        rw [heardOf_done hs hk,endsIn_cons,readMessages,hread,after_nil]
        simp [CalmFrom,ht,hs,hk]
      · rw [heardOf_own hs hk,endsIn_cons,readMessages]
        have happend : m :: heardOf sequence rest = [m] ++ heardOf sequence rest := rfl
        rw [happend,calmFrom_append query]
        rcases readMessage_own query ht hs hk with ⟨hcalm,hread⟩ | ⟨hnot,hbroken⟩
        · rw [hread,← after_append]
          have hnext : (t.after query [m]).inspected ≤ limits.maxMessages := hcalm.2
          rcases ih hnext with ⟨hcalm',hrest⟩ | ⟨hnot,hbroken⟩
          · left
            refine ⟨⟨hcalm,hcalm'⟩,?_⟩
            simp [hrest,hk]
          · exact .inr ⟨fun h => hnot h.2,hbroken⟩
        · right
          refine ⟨fun h => hnot h.1,?_⟩
          cases hread : readMessage query sequence limits t m with
          | mk t' stop =>
            rw [hread] at hbroken
            cases stop with
            | going | done => exact hbroken.elim
            | failed | raised => trivial
    · have hread : readMessage query sequence limits t m = (t,.going) := by simp [readMessage,hs]
      rw [heardOf_foreign hs,endsIn_cons,readMessages,hread]
      simpa [hs] using ih ht

def heardIn (sequence : ℕ) (frames : List Bytes) : List Message := frames.flatMap (heard sequence)

theorem heardIn_cons (frame : Bytes) (frames : List Bytes) :
    heardIn sequence (frame :: frames) = heard sequence frame ++ heardIn sequence frames := List.flatMap_cons

def size (frames : List Bytes) : ℕ := (frames.map List.length).sum

theorem size_cons (frame : Bytes) (frames : List Bytes) : size (frame :: frames) = frame.length + size frames := by
  simp [size]

variable (query) in
/-- A dump is read to its end exactly when it ends, reports no error and stays within the limits. -/
theorem receive_done {t t' : Tally} {received : ℕ} {arrivals : List Arrival} (ht : t.inspected ≤ limits.maxMessages) :
    receive query sequence limits t received arrivals = (t',.done) ↔
      ∃ frames, dump sequence arrivals = some frames ∧ CalmFrom limits t (heardIn sequence frames) ∧
        received + size frames ≤ limits.maxBytes ∧ t' = t.after query (heardIn sequence frames) := by
  induction arrivals generalizing t received with
  | nil => simp [receive,dump]
  | cons arrival rest ih =>
    cases arrival with
    | expired | error => simp [receive,dump]
    | frame payload =>
      simp only [receive,dump]
      generalize payload.take receiveBytes = frame
      by_cases hbytes : limits.maxBytes < received + frame.length
      · rw [if_pos hbytes]
        refine iff_of_false (by simp) ?_
        rintro ⟨frames,hdump,_,hsize,_⟩
        have hfirst : frame.length ≤ size frames := by
          split at hdump
          · obtain rfl := Option.some.inj hdump
            simp [size]
          · obtain ⟨more,_,rfl⟩ := Option.map_eq_some_iff.mp hdump
            simp [size]
        omega
      · rw [if_neg hbytes]
        rcases readMessages_spec query sequence ht (iterNetlink frame) with ⟨hcalm,hread⟩ | ⟨hnot,hbroken⟩
        · rw [hread]
          cases hends : endsIn sequence (iterNetlink frame) with
          | true =>
            simp only [if_true,Option.some.injEq,Prod.mk.injEq,and_true]
            constructor
            · rintro rfl
              refine ⟨_,rfl,?_,?_,?_⟩
              · simpa [heardIn,heard] using hcalm
              · simp only [size,List.map_cons,List.map_nil,List.sum_cons,List.sum_nil]
                omega
              · simp [heardIn,heard]
            · rintro ⟨frames,rfl,_,_,rfl⟩
              simp [heardIn,heard]
          | false =>
            have hnext : (t.after query (heardOf sequence (iterNetlink frame))).inspected ≤ limits.maxMessages := hcalm.2
            simp only [Bool.false_eq_true,if_false,Option.map_eq_some_iff]
            rw [ih hnext]
            constructor
            · rintro ⟨frames,hdump,hcalm',hsize,rfl⟩
              refine ⟨_,⟨frames,hdump,rfl⟩,?_,?_,?_⟩
              · rw [heardIn_cons,calmFrom_append query]
                exact ⟨hcalm,hcalm'⟩
              · rw [size_cons]
                omega
              · rw [heardIn_cons,after_append]
                rfl
            · rintro ⟨_,⟨frames,hdump,rfl⟩,hcalm',hsize,rfl⟩
              rw [heardIn_cons,calmFrom_append query] at hcalm'
              rw [size_cons] at hsize
              refine ⟨frames,hdump,hcalm'.2,by omega,?_⟩
              rw [heardIn_cons,after_append]
              rfl
        · refine iff_of_false ?_ ?_
          · cases hread : readMessages query sequence limits t (iterNetlink frame) with
            | mk t₁ stop =>
              rw [hread] at hbroken
              cases stop with
              | going | done => exact hbroken.elim
              | failed | raised => simp
          · rintro ⟨frames,hdump,hcalm,_⟩
            apply hnot
            split at hdump
            · obtain rfl := Option.some.inj hdump
              simpa [heardIn,heard] using hcalm
            · obtain ⟨more,_,rfl⟩ := Option.map_eq_some_iff.mp hdump
              rw [heardIn_cons,calmFrom_append query] at hcalm
              exact hcalm.1

/-- A dump that is read to its end: it reports no error and stays within the limits. -/
def Calm (limits : Limits) (sequence : ℕ) (frames : List Bytes) : Prop :=
  (∀ m ∈ heardIn sequence frames, m.kind = nlmsgError → errorCode m = 0) ∧
    (heardIn sequence frames).countP (·.kind = sockDiagByFamily) ≤ limits.maxMessages ∧ size frames ≤ limits.maxBytes

/-- The sockets asked for among the messages heard. -/
def found (query : TcpSocketTuple) (sequence : ℕ) (frames : List Bytes) : List Decoded :=
  (heardIn sequence frames).filterMap query.established

def Status.Conclusive (s : Status) : Prop := s = .matched ∨ s = .notFound

theorem conclude_matched {t : Tally} (h : t.conclude.status = .matched) :
    ∃ m, t.matched = [some m] ∧ t.conclude.found = some m := by
  unfold Tally.conclude at h ⊢
  split at h
  · cases h
  · cases h
  · next m hm => exact ⟨m,hm,rfl⟩
  · cases h

theorem conclude_conclusive {t : Tally} : t.conclude.status.Conclusive ↔ t.matched = [] ∨ ∃ m, t.matched = [some m] := by
  unfold Tally.conclude Status.Conclusive
  split
  · next h => simp [h]
  · next h => simp [h]
  · next m h => simp [h]
  · next h₁ h₂ h₃ =>
    refine iff_of_false (by simp) ?_
    rintro (h | ⟨m,h⟩)
    · exact h₁ h
    · exact h₃ m h

/-- A conclusion is drawn from a whole dump only. -/
theorem lookup_conclusive {channel : Channel} {result : SocketDiagResult} (h : lookup query sequence limits channel = some result)
    (hc : result.status.Conclusive) : channel.opens = true ∧ channel.sends = true ∧ channel.closes = true ∧
      ∃ frames, dump sequence channel.arrivals = some frames ∧ Calm limits sequence frames ∧
        result = (Tally.after query ⟨0,[]⟩ (heardIn sequence frames)).conclude := by
  have hfailure {t : Tally} {reason : String} {detail : Detail} : ¬(t.failure reason detail).status.Conclusive := by
    simp [Tally.failure,Status.Conclusive]
  unfold lookup at h
  cases ho : channel.opens with
  | false =>
    simp only [ho,Bool.not_false,if_true,Option.some.injEq] at h
    exact absurd hc (h ▸ hfailure)
  | true =>
    cases hcl : channel.closes with
    | false =>
      simp only [ho,hcl,Bool.not_true,Bool.not_false,Bool.false_eq_true,if_false,if_true,Option.some.injEq] at h
      exact absurd hc (h ▸ hfailure)
    | true =>
      cases hse : channel.sends with
      | false =>
        simp only [ho,hcl,hse,Bool.not_true,Bool.false_eq_true,if_false,Option.some.injEq] at h
        exact absurd hc (h ▸ hfailure)
      | true =>
        simp only [ho,hcl,hse,Bool.not_true,Bool.false_eq_true,if_false,if_true] at h
        split at h
        · next t hread =>
          obtain ⟨frames,hdump,hcalm,hsize,rfl⟩ := (receive_done query (Nat.zero_le _)).mp hread
          refine ⟨rfl,rfl,rfl,frames,hdump,⟨hcalm.1,?_,?_⟩,(Option.some.inj h).symm⟩
          · simpa using hcalm.2
          · simpa using hsize
        · next reason detail hread =>
          exact absurd hc (Option.some.inj h ▸ hfailure)
        · cases h
        · cases h

variable (query) in
/-- A whole dump is always concluded from. -/
theorem lookup_calm {channel : Channel} (ho : channel.opens = true) (hse : channel.sends = true) (hcl : channel.closes = true)
    {frames : List Bytes} (hdump : dump sequence channel.arrivals = some frames) (hcalm : Calm limits sequence frames) :
    lookup query sequence limits channel = some (Tally.after query ⟨0,[]⟩ (heardIn sequence frames)).conclude := by
  have hread : receive query sequence limits ⟨0,[]⟩ 0 channel.arrivals =
      (Tally.after query ⟨0,[]⟩ (heardIn sequence frames),.done) := (receive_done query (Nat.zero_le _)).mpr
    ⟨frames,hdump,⟨hcalm.1,by simpa using hcalm.2.1⟩,by simpa using hcalm.2.2,rfl⟩
  simp [lookup,ho,hse,hcl,hread]

end Reading

/-! Soundness -/

/-- The frame is nothing but messages. -/
def Whole (frame : Bytes) : Prop := ∃ records, messageLayout.Splits frame records

/-- The message holds a socket and nothing but attributes after it. -/
def Complete (m : Message) : Prop := 72 ≤ m.body.length ∧ ∃ records, attributeLayout.Splits (m.body.drop 72) records

/-- The messages of the own sequence that stand behind its end marker. -/
def behind (sequence : ℕ) (frame : Bytes) : List Message := (own sequence frame).dropWhile (·.kind ≠ nlmsgDone)

/-- What a result has to rest on: a dump that ended, was read to its end and holds one such socket. -/
structure Sound (query : TcpSocketTuple) (sequence : ℕ) (channel : Channel) (result : SocketDiagResult) : Prop where
  matched : result.status = .matched → ∃ frames, dump sequence channel.arrivals = some frames ∧
    (∀ frame ∈ frames, ∀ m ∈ own sequence frame, m.kind = sockDiagByFamily → Complete m) ∧
    ∃ d cgroupId, (frames.flatMap (own sequence)).filterMap query.established = [d] ∧ d.cgroupId = some cgroupId ∧
      0 < cgroupId ∧ result.found.map SocketDiagMatch.cgroupId = some cgroupId
  concluded : result.status.Conclusive → ∃ frames, dump sequence channel.arrivals = some frames ∧
    ∀ frame ∈ frames, Whole frame

/-- No socket message is cut short and no further match stands behind the end marker. -/
def SocketsLegible (query : TcpSocketTuple) (sequence : ℕ) (frames : List Bytes) : Prop :=
  ∀ frame ∈ frames,
    (∀ m ∈ own sequence frame, m.kind = sockDiagByFamily →
      72 ≤ m.body.length ∧ attributeLayout.leftover (m.body.drop 72) = []) ∧
    ∀ m ∈ behind sequence frame, query.established m = none

/-- A dump that is concluded from leaves nothing over in any frame and, where a socket was found,
its sockets are legible. -/
def Legible (query : TcpSocketTuple) (sequence : ℕ) (limits : Limits) (channel : Channel) : Prop :=
  channel.opens = true → channel.sends = true → channel.closes = true →
    ∀ frames, dump sequence channel.arrivals = some frames → Calm limits sequence frames →
      ((found query sequence frames).map Decoded.remembered = [] ∨
        ∃ m, (found query sequence frames).map Decoded.remembered = [some m]) →
      (∀ frame ∈ frames, messageLayout.leftover frame = []) ∧
        (found query sequence frames ≠ [] → SocketsLegible query sequence frames)

theorem whole_iff {frame : Bytes} : Whole frame ↔ messageLayout.leftover frame = [] := by
  simp [Whole,Layout.splits_iff]

theorem complete_iff {m : Message} :
    Complete m ↔ 72 ≤ m.body.length ∧ attributeLayout.leftover (m.body.drop 72) = [] := by
  simp [Complete,Layout.splits_iff]

section Lookup

variable {query : TcpSocketTuple} {sequence : ℕ} {limits : Limits} {channel : Channel} {result : SocketDiagResult}

theorem own_eq (frame : Bytes) : own sequence frame = heard sequence frame ++ behind sequence frame :=
  List.takeWhile_append_dropWhile.symm

theorem heardIn_sublist (frames : List Bytes) : (heardIn sequence frames).Sublist (frames.flatMap (own sequence)) := by
  induction frames with
  | nil => exact .slnil
  | cons frame rest ih =>
    rw [heardIn_cons,List.flatMap_cons,own_eq]
    exact (List.sublist_append_left _ _).append ih

/-- All the sockets asked for are those heard of exactly when none stands behind an end marker. -/
theorem established_own {frames : List Bytes} :
    ((frames.flatMap (own sequence)).filterMap query.established).length = (found query sequence frames).length ↔
      ∀ frame ∈ frames, ∀ m ∈ behind sequence frame, query.established m = none := by
  induction frames with
  | nil => simp [found,heardIn]
  | cons frame rest ih =>
    have hle : (found query sequence rest).length ≤ ((rest.flatMap (own sequence)).filterMap query.established).length :=
      ((heardIn_sublist rest).filterMap _).length_le
    have hnone : ((behind sequence frame).filterMap query.established).length = 0 ↔
        ∀ m ∈ behind sequence frame, query.established m = none := by
      rw [List.length_eq_zero_iff,List.filterMap_eq_nil_iff]
    simp only [List.forall_mem_cons]
    rw [← ih,← hnone,found,heardIn_cons,List.flatMap_cons,own_eq]
    simp only [List.filterMap_append,List.length_append]
    simp only [found] at hle
    simp only [found]
    omega

theorem established_own_eq {frames : List Bytes} (h : ∀ frame ∈ frames, ∀ m ∈ behind sequence frame, query.established m = none) :
    (frames.flatMap (own sequence)).filterMap query.established = found query sequence frames := by
  have hsub : (found query sequence frames).Sublist ((frames.flatMap (own sequence)).filterMap query.established) :=
    (heardIn_sublist frames).filterMap _
  exact (hsub.eq_of_length (established_own.mpr h).symm).symm

theorem remembered_some {d : Decoded} {m : SocketDiagMatch} (h : d.remembered = some m) :
    ∃ cgroupId, d.cgroupId = some cgroupId ∧ 0 < cgroupId ∧ m.cgroupId = cgroupId := by
  unfold Decoded.remembered at h
  obtain ⟨cgroupId,hd,hm⟩ := Option.bind_eq_some_iff.mp h
  split at hm
  · cases hm
  · next hne =>
    cases hm
    exact ⟨cgroupId,hd,Nat.pos_of_ne_zero hne,rfl⟩

theorem matched_found (frames : List Bytes) : (Tally.after query ⟨0,[]⟩ (heardIn sequence frames)).matched =
    (found query sequence frames).map Decoded.remembered := by simp [Tally.after,found]

/-- A lookup that concludes soundly concluded from a legible dump. -/
theorem legible_of_sound (h : ∀ result, lookup query sequence limits channel = some result → Sound query sequence channel result) :
    Legible query sequence limits channel := by
  intro ho hse hcl frames hdump hcalm hfound
  have hsound := h _ (lookup_calm query ho hse hcl hdump hcalm)
  have hconclusive := conclude_conclusive.mpr (matched_found frames ▸ hfound)
  obtain ⟨frames',hdump',hwhole⟩ := hsound.concluded hconclusive
  obtain rfl := Option.some.inj (hdump.symm.trans hdump')
  refine ⟨fun frame hf => whole_iff.mp (hwhole frame hf),fun hne => ?_⟩
  obtain ⟨m,hm⟩ := hfound.resolve_left fun he => hne (List.map_eq_nil_iff.mp he)
  have hstatus : (Tally.after query ⟨0,[]⟩ (heardIn sequence frames)).conclude.status = .matched := by
    simp [Tally.conclude,(matched_found frames).trans hm]
  obtain ⟨frames',hdump',hcomplete,d,_,hd,_⟩ := hsound.matched hstatus
  obtain rfl := Option.some.inj (hdump.symm.trans hdump')
  have hlength : ((frames.flatMap (own sequence)).filterMap query.established).length =
      (found query sequence frames).length := by
    have hone := congrArg List.length hm
    rw [List.length_map] at hone
    rw [hd,hone]
    rfl
  exact fun frame hf => ⟨fun m hm hk => complete_iff.mp (hcomplete frame hf m hm hk),established_own.mp hlength frame hf⟩

/-- What a legible dump is concluded from, when anything is concluded. -/
theorem Legible.concludes (h : Legible query sequence limits channel) (hlookup : lookup query sequence limits channel = some result)
    (hc : result.status.Conclusive) : ∃ frames, dump sequence channel.arrivals = some frames ∧
      result = (Tally.after query ⟨0,[]⟩ (heardIn sequence frames)).conclude ∧
      (∀ frame ∈ frames, messageLayout.leftover frame = []) ∧
      (found query sequence frames ≠ [] → SocketsLegible query sequence frames) := by
  obtain ⟨ho,hse,hcl,frames,hdump,hcalm,hresult⟩ := lookup_conclusive hlookup hc
  rw [hresult,conclude_conclusive,matched_found] at hc
  exact ⟨frames,hdump,hresult,h ho hse hcl frames hdump hcalm hc⟩

theorem Legible.sound (h : Legible query sequence limits channel) (hlookup : lookup query sequence limits channel = some result) :
    Sound query sequence channel result where
  matched hstatus := by
    obtain ⟨frames,hdump,hresult,hleft,hrest⟩ := h.concludes hlookup (.inl hstatus)
    rw [hresult] at hstatus
    obtain ⟨m,hm,hfound⟩ := conclude_matched hstatus
    rw [matched_found] at hm
    obtain ⟨d,hd,hremembered⟩ := List.map_eq_singleton_iff.mp hm
    obtain ⟨cgroupId,hcgroup,hpos,heq⟩ := remembered_some hremembered
    have hframes := hrest (by rw [hd]; simp)
    refine ⟨frames,hdump,fun frame hf m hm hk => complete_iff.mpr ((hframes frame hf).1 m hm hk),d,cgroupId,?_,hcgroup,hpos,?_⟩
    · rw [established_own_eq fun frame hf => (hframes frame hf).2,hd]
    · rw [hresult,hfound,Option.map_some,heq]
  concluded hc := by
    obtain ⟨frames,hdump,_,hleft,_⟩ := h.concludes hlookup hc
    exact ⟨frames,hdump,fun frame hf => whole_iff.mpr (hleft frame hf)⟩

/-- What a lookup concludes is sound exactly when the dump it concludes from was legible. -/
theorem lookup_sound_iff :
    (∀ result, lookup query sequence limits channel = some result → Sound query sequence channel result) ↔
      Legible query sequence limits channel :=
  ⟨legible_of_sound,fun h _ hlookup => h.sound hlookup⟩

end Lookup

/-! A dump with a frame that was cut short -/

def browserQuery : TcpSocketTuple where
  family := .inet
  peerIp := ⟨[10,0,0,2],none⟩
  peerPort := 50000
  localIp := ⟨[10,0,0,1],none⟩
  localPort := 443
  agree := by decide
  ports := by decide

/-- An established socket of the query in cgroup 42, in answer to request 7. -/
def browserSocket : Bytes :=
  [100,0,0,0,20,0,2,0,7,0,0,0,0,0,0,0] ++ [2,1,0,0] ++ [1,187,195,80] ++ [10,0,0,1] ++ List.replicate 12 0 ++
    [10,0,0,2] ++ List.replicate 12 0 ++ List.replicate 24 0 ++ [232,3,0,0] ++ [57,48,0,0] ++
    [12,0,21,0] ++ [42,0,0,0,0,0,0,0]

def endMarker : Bytes := [20,0,0,0,3,0,2,0,7,0,0,0,0,0,0,0] ++ [0,0,0,0]

/-- The socket is reported once and then again in a message that is cut short. -/
def cutShort : Channel := ⟨true,true,[.frame (browserSocket ++ browserSocket.take 60),.frame endMarker],true⟩

set_option maxRecDepth 8000 in
/-- A second such socket may stand in what could not be read, and the lookup reports a match. -/
theorem cut_short_matched : ¬∀ result, lookup browserQuery 7 {} cutShort = some result →
    Sound browserQuery 7 cutShort result := by
  intro h
  have hlookup : lookup browserQuery 7 {} cutShort =
      some ⟨.matched,"exact_tcp_socket_matched",some ⟨42,12345,1000⟩,1,1,.nothing⟩ := by decide
  obtain ⟨frames,hdump,hwhole⟩ := (h _ hlookup).concluded (.inl rfl)
  have hframes : dump 7 cutShort.arrivals = some [browserSocket ++ browserSocket.take 60,endMarker] := by decide
  obtain rfl := Option.some.inj (hframes.symm.trans hdump)
  have hleft := whole_iff.mp (hwhole _ (List.mem_cons_self ..))
  exact absurd hleft (by decide)

end SocketDiag
end LocalPlane
