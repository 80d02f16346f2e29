import Mathlib.Data.Nat.Notation
import Mathlib.Data.List.Basic
import Mathlib.Tactic.Common

/-!
# One request and one response on a line

Both channels frame one JSON object a line and share what is checked of it: which keys it
may have, which version it speaks, whose request it answers and that success and failure
exclude each other. The client also records whether its request had left when it failed.
-/

set_option linter.dupNamespace false

namespace LocalPlane
namespace LineProtocol

inductive Json where
  | null
  | bool (value : Bool)
  | num (value : Int)
  | str (value : String)
  | arr (items : List Json)
  | obj (fields : List (String × Json))

abbrev Fields := List (String × Json)

mutual

def Json.decEq : (a b : Json) → Decidable (a = b)
  | .null,b => by cases b <;> first | exact isTrue rfl | exact isFalse (by simp)
  | .bool v,b => by
    cases b with
    | bool w => exact decidable_of_iff (v = w) (by simp)
    | _ => exact isFalse (by simp)
  | .num v,b => by
    cases b with
    | num w => exact decidable_of_iff (v = w) (by simp)
    | _ => exact isFalse (by simp)
  | .str v,b => by
    cases b with
    | str w => exact decidable_of_iff (v = w) (by simp)
    | _ => exact isFalse (by simp)
  | .arr l,b => by
    cases b with
    | arr l' => exact @decidable_of_iff _ (l = l') (by simp) (Json.decEqItems l l')
    | _ => exact isFalse (by simp)
  | .obj l,b => by
    cases b with
    | obj l' => exact @decidable_of_iff _ (l = l') (by simp) (Json.decEqFields l l')
    | _ => exact isFalse (by simp)

def Json.decEqItems : (l l' : List Json) → Decidable (l = l')
  | [],[] => isTrue rfl
  | [],_ :: _ => isFalse (by simp)
  | _ :: _,[] => isFalse (by simp)
  | a :: l,b :: l' => @decidable_of_iff _ (a = b ∧ l = l') (by simp)
      (@instDecidableAnd _ _ (Json.decEq a b) (Json.decEqItems l l'))

def Json.decEqFields : (l l' : Fields) → Decidable (l = l')
  | [],[] => isTrue rfl
  | [],_ :: _ => isFalse (by simp)
  | _ :: _,[] => isFalse (by simp)
  | (k,a) :: l,(k',b) :: l' => @decidable_of_iff _ (k = k' ∧ a = b ∧ l = l') (by simp [and_assoc])
      (@instDecidableAnd _ _ inferInstance (@instDecidableAnd _ _ (Json.decEq a b) (Json.decEqFields l l')))

end

instance : DecidableEq Json := Json.decEq

def malformedMessage : String := "malformed_message"
def unknownField : String := "unknown_field"
def messageTooLarge : String := "message_too_large"
def protocolVersionUnsupported : String := "protocol_version_unsupported"
def internalError : String := "internal_error"
def uncorrelatedRequestId : String := "uncorrelated"

def reserved : List String := ["request_id","method","params","ok","result","error"]

/-- One channel's envelope. Its key is none of the names the envelope uses itself. -/
structure Codec where
  envelopeKey : String
  version : String
  maxMessageBytes : ℕ
  apart : envelopeKey ∉ reserved

def agentCodec : Codec := ⟨"localplane_protocol","1",16 * 1024 * 1024,by decide⟩
def helperCodec : Codec := ⟨"localplane_helper","1",64 * 1024,by decide⟩

/-- One frame as it arrived: how long it is, and what it parses to. -/
structure Frame where
  bytes : ℕ
  json : Option Json

namespace Codec

variable (c : Codec)

/-- The envelope every frame has, refused before anything else is read of it. -/
def envelope (raw : Frame) (allowed : List String) : Except String (Fields × String) :=
  if c.maxMessageBytes < raw.bytes then .error messageTooLarge
  else match raw.json with
    | some (.obj payload) =>
      if payload.all fun field => field.1 ∈ c.envelopeKey :: allowed then
        match payload.lookup c.envelopeKey with
        | some (.str version) =>
          if version ≠ c.version then .error protocolVersionUnsupported
          else match payload.lookup "request_id" with
            | some (.str requestId) => if requestId = "" then .error malformedMessage else .ok (payload,requestId)
            | _ => .error malformedMessage
        | _ => .error protocolVersionUnsupported
      else .error unknownField
    | _ => .error malformedMessage

/-- A response: whose request it answers, and its result or the code of its error. -/
def decodeResponse (raw : Frame) : Except String (String × Except String Fields) :=
  match c.envelope raw ["request_id","ok","result","error"] with
  | .error code => .error code
  | .ok (payload,requestId) =>
    let hasResult := (payload.lookup "result").isSome
    if hasResult = (payload.lookup "error").isSome then .error malformedMessage
    else match payload.lookup "ok" with
      | some (.bool claimed) =>
        if claimed ≠ hasResult then .error malformedMessage
        else match payload.lookup "result" with
          | some (.obj result) => .ok (requestId,.ok result)
          | some _ => .error malformedMessage
          | none =>
            match payload.lookup "error" with
            | some (.obj err) =>
              match err.lookup "code" with
              | some (.str code) => .ok (requestId,.error code)
              | _ => .error malformedMessage
            | _ => .error malformedMessage
      | _ => .error malformedMessage

/-- What the server frames for an answer it can put into one frame. -/
def response (requestId : String) (answer : Except String Fields) (bytes : ℕ) : Frame :=
  ⟨bytes,some (.obj ((c.envelopeKey,.str c.version) :: ("request_id",.str requestId) :: match answer with
    | .ok result => [("ok",.bool true),("result",.obj result)]
    | .error code => [("ok",.bool false),("error",.obj [("code",.str code)])]))⟩

/-- What the server frames, the client reads back. -/
theorem decode_response {requestId : String} (hid : requestId ≠ "") (answer : Except String Fields) {bytes : ℕ}
    (hb : bytes ≤ c.maxMessageBytes) : c.decodeResponse (c.response requestId answer bytes) = .ok (requestId,answer) := by
  have hkeys := c.apart
  simp only [reserved,List.mem_cons,List.not_mem_nil,or_false,not_or] at hkeys
  obtain ⟨h₁,_,_,h₄,h₅,h₆⟩ := hkeys
  have k₁ : ("request_id" == c.envelopeKey) = false := by simpa using Ne.symm h₁
  have k₄ : ("ok" == c.envelopeKey) = false := by simpa using Ne.symm h₄
  have k₅ : ("result" == c.envelopeKey) = false := by simpa using Ne.symm h₅
  have k₆ : ("error" == c.envelopeKey) = false := by simpa using Ne.symm h₆
  cases answer with
  | ok result => simp [decodeResponse,envelope,response,List.lookup_cons,hid,Nat.not_lt.mpr hb,k₁,k₄,k₅,k₆]
  | error code => simp [decodeResponse,envelope,response,List.lookup_cons,hid,Nat.not_lt.mpr hb,k₁,k₄,k₅,k₆]

/-- Nothing else is ever read out of a frame the server made. -/
theorem decode_response_eq {requestId replyId : String} {answer answer' : Except String Fields} {bytes : ℕ}
    (h : c.decodeResponse (c.response requestId answer bytes) = .ok (replyId,answer')) : answer' = answer := by
  by_cases hb : bytes ≤ c.maxMessageBytes
  · by_cases hid : requestId = ""
    · subst hid
      have hk : ("request_id" == c.envelopeKey) = false := by
        have hkeys := c.apart
        simp only [reserved,List.mem_cons,not_or] at hkeys
        simpa using Ne.symm hkeys.1
      have he : c.envelope (c.response "" answer bytes) ["request_id","ok","result","error"] = .error malformedMessage := by
        cases answer <;> simp [envelope,response,List.lookup_cons,hk,Nat.not_lt.mpr hb]
      simp [decodeResponse,he] at h
    · rw [c.decode_response hid answer hb] at h
      cases h
      rfl
  · simp [decodeResponse,envelope,response,Nat.not_le.mp hb] at h

end Codec

/-- What reading one message came to, once the request had been written. -/
inductive Received where
  | timeout | connection | socket | tooLarge | unterminated | closed
  | frame (raw : Frame)

/-- What one connection came to: the frame was too large to build, it did not leave in full, or it
left and something was received. -/
inductive Exchange where
  | tooLarge
  | notFound | timeout | connection | socket
  | sent (received : Received)

/-- A failed call, with whether the request had been written by then. -/
structure CallError where
  code : String
  dispatched : Bool
  deriving DecidableEq

/-- One request, one response, one connection. -/
def call (c : Codec) (unavailable : String) (requestId : String) : Exchange → Except CallError Fields
  | .tooLarge => .error ⟨messageTooLarge,false⟩
  | .notFound | .connection | .socket => .error ⟨unavailable,false⟩
  | .timeout => .error ⟨"timeout",false⟩
  | .sent received =>
    match received with
    | .timeout => .error ⟨"timeout",true⟩
    | .connection | .socket | .closed => .error ⟨unavailable,true⟩
    | .tooLarge => .error ⟨messageTooLarge,true⟩
    | .unterminated => .error ⟨malformedMessage,true⟩
    | .frame raw =>
      match c.decodeResponse raw with
      | .error code => .error ⟨code,true⟩
      | .ok (replyId,answer) =>
        if replyId = requestId then answer.mapError fun code => ⟨code,true⟩
        else match answer with
          -- a refusal made before the request id could be read is worth reporting as it is
          | .error code => .error ⟨if replyId = uncorrelatedRequestId then code else malformedMessage,true⟩
          | .ok _ => .error ⟨malformedMessage,true⟩

variable {c : Codec} {unavailable requestId : String}

/-- A failure says that the request had left exactly when it had. -/
theorem call_dispatched {exchange : Exchange} {e : CallError} (h : call c unavailable requestId exchange = .error e) :
    e.dispatched = true ↔ ∃ received, exchange = .sent received := by
  cases exchange with
  | sent received =>
    refine ⟨fun _ => ⟨received,rfl⟩,fun _ => ?_⟩
    cases received with
    | frame raw =>
      simp only [call] at h
      split at h
      · cases h; rfl
      · next replyId answer _ =>
        split at h
        · cases answer with
          | error code => cases h; rfl
          | ok result => cases h
        · cases answer with
          | error code => cases h; rfl
          | ok result => cases h; rfl
    | _ => cases h; rfl
  | _ => cases h; simp

/-- A result that is returned was received, in answer to this very request. -/
theorem call_ok {exchange : Exchange} {result : Fields} (h : call c unavailable requestId exchange = .ok result) :
    ∃ raw, exchange = .sent (.frame raw) ∧ c.decodeResponse raw = .ok (requestId,.ok result) := by
  cases exchange with
  | sent received =>
    cases received with
    | frame raw =>
      refine ⟨raw,rfl,?_⟩
      simp only [call] at h
      split at h
      · cases h
      · next replyId answer hd =>
        split at h
        · next hid =>
          cases answer with
          | error code => cases h
          | ok found => cases h; rw [hd,hid]
        · cases answer <;> cases h
    | _ => cases h
  | _ => cases h

/-- The server's own frame is returned as the answer it was made for. -/
theorem call_response (hid : requestId ≠ "") (answer : Except String Fields) {bytes : ℕ} (hb : bytes ≤ c.maxMessageBytes) :
    call c unavailable requestId (.sent (.frame (c.response requestId answer bytes))) =
      answer.mapError fun code => ⟨code,true⟩ := by
  simp [call,c.decode_response hid answer hb]

end LineProtocol
end LocalPlane
