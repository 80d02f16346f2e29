import LocalPlane.JsonReading
import LocalPlane.LineServer

/-!
# A call and the service that answers it

A client writes one request on a connection of its own and takes the first line that comes back.
What it then says of its request is held against what the service was given of it, however far
the writing came and in whatever pieces it arrived.
-/

set_option linter.dupNamespace false

namespace LocalPlane
namespace LineServer

open Framing
open LineProtocol

inductive Fault where
  | notFound | timeout | connection | socket
  deriving DecidableEq

def Fault.exchange : Fault → LineProtocol.Exchange
  | .notFound => .notFound
  | .timeout => .timeout
  | .connection => .connection
  | .socket => .socket

/-- Reading that comes to no frame. -/
abbrev Silence := {received : Received // ∀ raw, received ≠ .frame raw}

/-- How far a client comes: it fails before all of its frame has left, or it reads, and finds `silence` where no line is. -/
inductive Attempt where
  | failed (fault : Fault) (left : ℕ)
  | written (silence : Silence)

/-- What leaves of a frame: never all of it where writing failed. -/
def Attempt.bytes (frame : Bytes) : Attempt → Bytes
  | .failed _ left => frame.dropLast.take left
  | .written _ => frame

namespace Server

variable (s : Server)

/-- `read_message` of the client, on all that is sent to it. -/
def firstLine (silence : Silence) (replies : Bytes) : Received :=
  match upTo newline (s.limit + 1) replies with
  | none => silence.val
  | some (line,_) =>
    match readMessage s.channel.codec line with
    | .ok (some raw) => .frame ⟨raw.length,s.loads raw⟩
    | .ok none => silence.val
    | .error e => if e.code = messageTooLarge then .tooLarge else .unterminated

section Call

variable (requestId method : String) (params : Fields) (attempt : Attempt)

def written : Bytes :=
  match request s.channel requestId method params with
  | .error _ => []
  | .ok frame => attempt.bytes frame

/-- `call`, against what the service sends. -/
def call (unavailable : String) (events : List Event) : Except CallError Fields :=
  match request s.channel requestId method params with
  | .error code => .error ⟨code,false⟩
  | .ok _ =>
    match attempt with
    | .failed fault _ => LineProtocol.call s.channel.codec unavailable requestId fault.exchange
    | .written silence => LineProtocol.call s.channel.codec unavailable requestId (.sent (s.firstLine silence (replies events)))

/-- What a client is told of what came of its request. -/
def outcome (n : ℕ) : Except CallError Fields :=
  match s.handler n method params with
  | .error (.refused e) => .error ⟨e.code,true⟩
  | .error (.failed _) => .error ⟨internalError,true⟩
  | .ok result =>
    match ok s.channel.codec requestId result with
    | .ok _ => .ok result
    | .error _ => .error ⟨messageTooLarge,true⟩

end Call

variable {s} {requestId method : String} {params : Fields} {attempt : Attempt} {peer : Option Peer} {arrivals : List Arrival}
  {bytes : Bytes} {unavailable : String}

section Codec

variable {c : LineProtocol.Codec} {replyId : String} {answer : Except String Fields} {e : Refusal} {n : ℕ}

theorem decode_failure (hid : requestId ≠ "") (hn : n ≤ c.maxMessageBytes) :
    c.decodeResponse ⟨n,some (.obj (failureFields c requestId e))⟩ = .ok (requestId,.error e.code) := by
  have hkeys := c.apart
  simp only [reserved,List.mem_cons,List.not_mem_nil,or_false,not_or] at hkeys
  obtain ⟨h₁,_,_,h₄,h₅,h₆⟩ := hkeys
  have k₁ : ("request_id" == c.envelopeKey) = false := by simpa using Ne.symm h₁
  have k₄ : ("ok" == c.envelopeKey) = false := by simpa using Ne.symm h₄
  have k₅ : ("result" == c.envelopeKey) = false := by simpa using Ne.symm h₅
  have k₆ : ("error" == c.envelopeKey) = false := by simpa using Ne.symm h₆
  simp [Codec.decodeResponse,Codec.envelope,failureFields,List.lookup_cons,hid,Nat.not_lt.mpr hn,k₁,k₄,k₅,k₆]

/-- No result is read out of a failure. -/
theorem decode_failure_ne {result : Fields} :
    c.decodeResponse ⟨n,some (.obj (failureFields c requestId e))⟩ ≠ .ok (replyId,.ok result) := by
  intro h
  by_cases hn : n ≤ c.maxMessageBytes
  · by_cases hid : requestId = ""
    · subst hid
      have hk : ("request_id" == c.envelopeKey) = false := by
        have hkeys := c.apart
        simp only [reserved,List.mem_cons,not_or] at hkeys
        simpa using Ne.symm hkeys.1
      have he : c.envelope ⟨n,some (.obj (failureFields c "" e))⟩ ["request_id","ok","result","error"] = .error malformedMessage := by
        simp [Codec.envelope,failureFields,List.lookup_cons,hk,Nat.not_lt.mpr hn]
      simp [Codec.decodeResponse,he] at h
    · rw [decode_failure hid hn] at h
      cases h
  · simp [Codec.decodeResponse,Codec.envelope,Nat.not_le.mp hn] at h

end Codec

/-- What a client asks is read as it was asked, or refused. -/
theorem decode_own {raw : Bytes} (h : s.loads raw = some (.obj (requestFields s.channel.codec requestId method params))) :
    decodeRequest s.channel s.loads raw =
      if s.limit < raw.length then .error messageTooLarge
      else if requestId = "" then .error malformedMessage
      else if method ∈ s.channel.methods then
        if s.channel.params.elim true fun allowed => params.all fun p => p.1 ∈ allowed method then .ok (requestId,method,params)
        else .error unknownField
      else .error unsupportedMethod := by
  have hkeys := s.channel.codec.apart
  simp only [reserved,List.mem_cons,List.not_mem_nil,or_false,not_or] at hkeys
  obtain ⟨h₁,h₂,h₃,-⟩ := hkeys
  have k₁ : ("request_id" == s.channel.codec.envelopeKey) = false := by simpa using Ne.symm h₁
  have k₂ : ("method" == s.channel.codec.envelopeKey) = false := by simpa using Ne.symm h₂
  have k₃ : ("params" == s.channel.codec.envelopeKey) = false := by simpa using Ne.symm h₃
  have hmethod : (requestFields s.channel.codec requestId method params).lookup "method" = some (.str method) := by
    simp [requestFields,List.lookup_cons,k₂]
  have hparams : (requestFields s.channel.codec requestId method params).lookup "params" = some (.obj params) := by
    simp [requestFields,List.lookup_cons,k₃]
  rw [decodeRequest]
  by_cases hlong : s.limit < raw.length
  · have henvelope : s.channel.codec.envelope ⟨raw.length,s.loads raw⟩ ["request_id","method","params"] = .error messageTooLarge :=
      if_pos hlong
    rw [henvelope,if_pos hlong]
  · rw [if_neg hlong]
    have hshort : ¬s.channel.codec.maxMessageBytes < raw.length := hlong
    by_cases hid : requestId = ""
    · have henvelope : s.channel.codec.envelope ⟨raw.length,s.loads raw⟩ ["request_id","method","params"] = .error malformedMessage := by
        simp [Codec.envelope,h,requestFields,List.lookup_cons,k₁,hshort,hid]
      rw [henvelope,if_pos hid]
    · have henvelope : s.channel.codec.envelope ⟨raw.length,s.loads raw⟩ ["request_id","method","params"] =
          .ok (requestFields s.channel.codec requestId method params,requestId) := by
        simp [Codec.envelope,h,requestFields,List.lookup_cons,k₁,hshort,hid]
      rw [henvelope,if_neg hid]
      simp only [hmethod,hparams]

/-- Nothing comes back but one frame that was sent, if any was. -/
def Answered (events : List Event) (reply : Except String Bytes) : Prop :=
  replies events = [] ∨ ∃ frame, reply = .ok frame ∧ .sent frame ∈ events ∧ replies events = frame

theorem answered_send (n : ℕ) (reply : Except String Bytes) : Answered (s.send n reply) reply := by
  unfold send
  cases reply with
  | error => exact .inl rfl
  | ok frame =>
    dsimp only
    split
    · exact .inr ⟨frame,rfl,List.mem_singleton_self _,List.append_nil _⟩
    · exact .inl rfl

theorem answered_refuse (message : String) (detail : Fields) (arrivals : List Arrival) :
    Answered (s.refuse message detail arrivals) (failure s.channel.codec uncorrelatedRequestId ⟨unauthorizedPeer,message,detail⟩) := by
  rcases s.refuse_exact message detail arrivals with h | ⟨frame,count,h,hframe,-⟩
  · rw [h]
    exact .inl rfl
  · rw [h]
    exact .inr ⟨frame,hframe,List.mem_cons_self,List.append_nil _⟩

theorem answered_append {events : List Event} {n : ℕ} {reply : Except String Bytes} (h : replies events = []) :
    Answered (events ++ s.send n reply) reply := by
  unfold Answered
  rw [replies_append,h,List.nil_append]
  exact (answered_send n reply).imp_right fun hsent => by
    obtain ⟨frame,hframe,hmem,heq⟩ := hsent
    exact ⟨frame,hframe,List.mem_append_right _ hmem,heq⟩

/-- A frame that has not come in full asks nothing. -/
theorem conversation_open {e : Ending} {pending : Bytes} {n : ℕ} : requests (s.conversation e pending [] n) = [] ∧
    ∃ refusal, Answered (s.conversation e pending [] n) (failure s.channel.codec uncorrelatedRequestId refusal) := by
  rw [conversation]
  split
  · exact ⟨requests_send _,_,answered_send _ _⟩
  · split
    · exact ⟨requests_send _,_,answered_send _ _⟩
    · exact ⟨rfl,⟨unauthorizedPeer,"",[]⟩,.inl rfl⟩

/-- One line, with nothing behind it. -/
theorem conversation_one {e : Ending} {line : Bytes} {n : ℕ} (h : line.length < s.limit) :
    s.conversation e [] [line] n = (s.respond n line).1 ++ s.send n (s.respond n line).2 := by
  have hrest : s.conversation e [] [] (n + 1) = [] := by
    rw [conversation,if_neg (by simp),if_neg (by simp)]
  rw [conversation,if_neg (Nat.not_le.mpr h)]
  cases hsent : s.send n (s.respond n line).2 with
  | nil => simp
  | cons event events => simp [hrest]

/-- Nor does anything short of a line. -/
theorem requests_open (h : newline ∉ stream arrivals) : requests (s.handle peer arrivals) = [] := by
  by_cases hallowed : ∃ p, peer = some p ∧ (s.allowed.authorize p).1 = true
  · obtain ⟨peer,rfl,hallowed⟩ := hallowed
    rw [handle_served arrivals hallowed,cut_open h]
    exact conversation_open.1
  · obtain ⟨message,detail,hrefusal⟩ := handle_refused arrivals fun p hp h => hallowed ⟨p,hp,h⟩
    rw [hrefusal]
    exact requests_refuse _ _ _

section Exchange

variable (hrequest : s.loads (body (requestFields s.channel.codec requestId method params)) =
  some (.obj (requestFields s.channel.codec requestId method params)))

include hrequest

theorem respond_own {n : ℕ} {line : Bytes} (hline : line = body (requestFields s.channel.codec requestId method params)) :
    (requests (s.respond n line).1 = [] ∧ replies (s.respond n line).1 = [] ∧
      ∃ refusal, (s.respond n line).2 = failure s.channel.codec uncorrelatedRequestId refusal) ∨
    (requests (s.respond n line).1 = [(method,params)] ∧ replies (s.respond n line).1 = [] ∧
      (s.respond n line).2 = s.answer n requestId method params) := by
  subst hline
  cases hdecode : decodeRequest s.channel s.loads (body (requestFields s.channel.codec requestId method params)) with
  | error code =>
    rw [respond,hdecode]
    exact .inl ⟨rfl,rfl,_,rfl⟩
  | ok asked =>
    have hasked : asked = (requestId,method,params) := by
      rw [decode_own hrequest] at hdecode
      split at hdecode
      · cases hdecode
      · split at hdecode
        · cases hdecode
        · split at hdecode
          · split at hdecode
            · cases hdecode
              rfl
            · cases hdecode
          · cases hdecode
    rw [respond,hdecode,hasked]
    exact .inr ⟨rfl,rfl,rfl⟩

/-- Of one request the service is given nothing, or the request, and what comes back is its answer. -/
theorem handle_own (peer : Option Peer) (hfits : (body (requestFields s.channel.codec requestId method params)).length < s.limit)
    (harrived : stream arrivals <+: body (requestFields s.channel.codec requestId method params) ++ [newline]) :
    (requests (s.handle peer arrivals) = [] ∧
      ∃ refusal, Answered (s.handle peer arrivals) (failure s.channel.codec uncorrelatedRequestId refusal)) ∨
    (requests (s.handle peer arrivals) = [(method,params)] ∧
      Answered (s.handle peer arrivals) (s.answer 0 requestId method params)) := by
  by_cases hallowed : ∃ p, peer = some p ∧ (s.allowed.authorize p).1 = true
  · obtain ⟨peer,rfl,hallowed⟩ := hallowed
    rw [handle_served arrivals hallowed]
    rcases List.prefix_concat_iff.mp harrived with hwhole | hpart
    · have hcut : cut newline (stream arrivals) = ([body (requestFields s.channel.codec requestId method params)],[]) := by
        rw [hwhole,cut_line (body_open _)]
        rfl
      rw [hcut,conversation_one hfits]
      rcases respond_own hrequest (n := 0) rfl with ⟨hnone,hreplies,refusal,hreply⟩ | ⟨hown,hreplies,hreply⟩
      · refine .inl ⟨?_,refusal,?_⟩
        · rw [requests_append,hnone,requests_send,List.append_nil]
        · rw [hreply]
          exact answered_append hreplies
      · refine .inr ⟨?_,?_⟩
        · rw [requests_append,hown,requests_send,List.append_nil]
        · rw [hreply]
          exact answered_append hreplies
    · rw [cut_open fun hmem => body_open _ (hpart.subset hmem)]
      exact .inl conversation_open
  · obtain ⟨message,detail,hrefusal⟩ := handle_refused arrivals fun p hp h => hallowed ⟨p,hp,h⟩
    rw [hrefusal]
    exact .inl ⟨requests_refuse _ _ _,_,answered_refuse _ _ _⟩

end Exchange

theorem frame_ok {payload : Fields} (h : LineServer.frame s.channel.codec payload = .ok bytes) :
    bytes = body payload ++ [newline] ∧ (body payload).length < s.limit := by
  unfold LineServer.frame at h
  split at h
  · cases h
  · next hfits =>
    cases h
    exact ⟨rfl,Nat.lt_of_succ_le (Nat.not_lt.mp hfits)⟩

theorem request_ok {frame : Bytes} (h : request s.channel requestId method params = .ok frame) : method ∈ s.channel.methods ∧
    frame = body (requestFields s.channel.codec requestId method params) ++ [newline] ∧
    (body (requestFields s.channel.codec requestId method params)).length < s.limit := by
  unfold request at h
  split at h
  · next hmethod => exact ⟨hmethod,frame_ok h⟩
  · cases h

theorem written_begins {frame : Bytes} (attempt : Attempt) (h : request s.channel requestId method params = .ok frame) :
    s.written requestId method params attempt <+: frame := by
  unfold written
  rw [h]
  cases attempt with
  | failed fault left => exact (List.take_prefix _ _).trans (List.dropLast_prefix _)
  | written silence => exact List.prefix_rfl

theorem firstLine_silence (silence : Silence) : s.firstLine silence [] = silence.val := rfl

theorem firstLine_frame {payload : Fields} (silence : Silence) (hframe : LineServer.frame s.channel.codec payload = .ok bytes)
    (hloads : s.loads (body payload) = some (.obj payload)) :
    s.firstLine silence bytes = .frame ⟨(body payload).length,some (.obj payload)⟩ ∧ (body payload).length ≤ s.channel.codec.maxMessageBytes := by
  obtain ⟨rfl,hlength⟩ := frame_ok hframe
  have htaken := upTo_line (body_open payload) (Nat.lt_succ_of_lt hlength) []
  refine ⟨?_,Nat.le_of_lt hlength⟩
  simp only [firstLine,htaken,readMessage_line s.channel.codec hlength,hloads]

/-- What a frame read back says is what it was made to say. -/
def Legible (s : Server) (events : List Event) : Prop :=
  ∀ payload, .sent (body payload ++ [newline]) ∈ events → s.loads (body payload) = some (.obj payload)

theorem firstLine_answered {events : List Event} {reply : Except String Bytes} {raw : Frame} (silence : Silence)
    (h : Answered events reply) (hread : s.firstLine silence (replies events) = .frame raw) :
    ∃ frame, reply = .ok frame ∧ .sent frame ∈ events ∧ replies events = frame := by
  rcases h with hnone | hsome
  · rw [hnone,firstLine_silence] at hread
    exact absurd hread (silence.2 raw)
  · exact hsome

/-- A failure that is sent gives no result to whom it is sent. -/
theorem firstLine_failure {e : Refusal} {replyId : String} {frame : Bytes} {events : List Event} {raw : Frame} {result : Fields}
    {silence : Silence} (hlegible : s.Legible events) (hframe : failure s.channel.codec replyId e = .ok frame)
    (hmem : .sent frame ∈ events) (hread : s.firstLine silence frame = .frame raw) :
    s.channel.codec.decodeResponse raw ≠ .ok (requestId,.ok result) := by
  obtain ⟨hline,-⟩ := frame_ok hframe
  subst hline
  obtain ⟨hraw,-⟩ := firstLine_frame silence hframe (hlegible _ hmem)
  rw [hraw] at hread
  cases hread
  exact decode_failure_ne

theorem firstLine_answer {frame : Bytes} {events : List Event} {raw : Frame} {result : Fields} {silence : Silence} {n : ℕ}
    (hlegible : s.Legible events) (hanswer : s.answer n requestId method params = .ok frame) (hmem : .sent frame ∈ events)
    (hread : s.firstLine silence frame = .frame raw) (hdecode : s.channel.codec.decodeResponse raw = .ok (requestId,.ok result)) :
    s.handler n method params = .ok result := by
  unfold answer at hanswer
  split at hanswer
  · exact absurd hdecode (firstLine_failure hlegible hanswer hmem hread)
  · exact absurd hdecode (firstLine_failure hlegible hanswer hmem hread)
  · next made hmade =>
    split at hanswer
    · next _ hok =>
      cases hanswer
      obtain ⟨hline,-⟩ := frame_ok hok
      subst hline
      obtain ⟨hraw,-⟩ := firstLine_frame silence hok (hlegible _ hmem)
      rw [hraw] at hread
      cases hread
      have hresponse : s.channel.codec.decodeResponse (s.channel.codec.response requestId (.ok made)
          (body (okFields s.channel.codec requestId made)).length) = .ok (requestId,.ok result) := hdecode
      cases s.channel.codec.decode_response_eq hresponse
      exact hmade
    · exact absurd hdecode (firstLine_failure hlegible hanswer hmem hread)

/-- Two messages of the same bytes are one message. -/
theorem body_injective : Function.Injective body := by
  intro payload payload' h
  have hread : ∀ fields : Fields, (body fields).map (fun b => Char.ofNat b.toNat) = JsonText.dumps (.obj fields) := by
    intro fields
    rw [body,List.map_map]
    refine (List.map_congr_left fun c hc => ?_).trans (List.map_id _)
    obtain ⟨-,hhigh⟩ := JsonText.printable_dumps _ c hc
    have hbyte : c.toNat.toUInt8.toNat = c.toNat := by
      rw [Nat.toUInt8,UInt8.toNat_ofNat',Nat.mod_eq_of_lt (by omega)]
    simp only [Function.comp_apply,hbyte,Char.ofNat_toNat,id_eq]
  have htext := congrArg (List.map fun b : UInt8 => Char.ofNat b.toNat) h
  rw [hread,hread] at htext
  cases JsonText.dumps_injective htext
  rfl

def pingRequest : Fields := requestFields agentCodec "1" "ping" []

def pingReply : Fields := okFields agentCodec "1" []

/-- A server of one method, to its own user. -/
def pingServer : Server where
  channel := ⟨agentCodec,["ping"],none⟩
  allowed := ⟨[0],[]⟩
  loads := fun raw =>
    if raw = body pingRequest then some (.obj pingRequest) else if raw = body pingReply then some (.obj pingReply) else none
  told := fun _ code => (code,[])
  handler := fun _ _ _ => .ok []
  sends := fun _ => true

def pingArrivals : List Arrival := [.piece ((body pingRequest).take 5),.piece ((body pingRequest).drop 5 ++ [newline]),.closed]

theorem ping_handle : pingServer.handle (some ⟨0,0⟩) pingArrivals = [.handled "ping" [],.sent (body pingReply ++ [newline])] := rfl

theorem ping_reads : pingServer.loads (body pingRequest) = some (.obj pingRequest) ∧
    pingServer.loads (body pingReply) = some (.obj pingReply) := by
  have hother : body pingReply ≠ body pingRequest := by decide
  exact ⟨by simp [pingServer],by simp [pingServer,hother]⟩

theorem ping_legible : pingServer.Legible (pingServer.handle (some ⟨0,0⟩) pingArrivals) := by
  intro payload hmem
  rw [ping_handle] at hmem
  rcases List.mem_cons.mp hmem with heq | hmem
  · cases heq
  · have heq := List.mem_singleton.mp hmem
    injection heq with hbytes
    cases body_injective (List.append_cancel_right hbytes)
    exact ping_reads.2

def silent : Silence := ⟨.closed,fun _ h => by cases h⟩

/-- What a client is told, read off the frame that answers its request. -/
theorem decode_answer {n : ℕ} (hid : requestId ≠ "") (h : s.answer n requestId method params = .ok bytes) :
    ∃ payload reply, LineServer.frame s.channel.codec payload = .ok bytes ∧
      (∀ k ≤ s.channel.codec.maxMessageBytes, s.channel.codec.decodeResponse ⟨k,some (.obj payload)⟩ = .ok (requestId,reply)) ∧
      s.outcome requestId method params n = reply.mapError fun code => ⟨code,true⟩ := by
  unfold answer at h
  unfold outcome
  cases hmade : s.handler n method params with
  | error raised =>
    rw [hmade] at h
    cases raised with
    | refused e => exact ⟨_,_,h,fun k hk => decode_failure hid hk,rfl⟩
    | failed text => exact ⟨_,_,h,fun k hk => decode_failure hid hk,rfl⟩
  | ok result =>
    rw [hmade] at h
    dsimp only at h ⊢
    cases hok : ok s.channel.codec requestId result with
    | ok frame =>
      rw [hok] at h
      cases h
      exact ⟨_,.ok result,hok,fun k hk => s.channel.codec.decode_response hid (.ok result) hk,rfl⟩
    | error code =>
      rw [hok] at h
      exact ⟨_,_,h,fun k hk => decode_failure hid hk,rfl⟩

/-- A request of a peer that may speak, of a method there is and with parameters it has, is given to the service once, and its
client is told what came of it, if an answer could be framed and got through. -/
theorem call_served {p : Peer} {silence : Silence} {frame : Bytes}
    (hpeer : p.uid ∈ s.allowed.uids ∨ p.gid ∈ s.allowed.gids) (hid : requestId ≠ "")
    (hframe : request s.channel requestId method params = .ok frame) (harrived : stream arrivals = frame)
    (hparams : ∀ allowed, s.channel.params = some allowed → ∀ param ∈ params, param.1 ∈ allowed method)
    (hrequest : s.loads (body (requestFields s.channel.codec requestId method params)) =
      some (.obj (requestFields s.channel.codec requestId method params)))
    (hlegible : s.Legible (s.handle (some p) arrivals)) (hsends : s.sends 0 = true)
    (hanswer : s.answer 0 requestId method params = .ok bytes) :
    requests (s.handle (some p) arrivals) = [(method,params)] ∧
    s.call requestId method params (.written silence) unavailable (s.handle (some p) arrivals) =
      s.outcome requestId method params 0 := by
  obtain ⟨hmethod,hline,hfits⟩ := request_ok hframe
  have hadmitted : (s.channel.params.elim true fun allowed => params.all fun p => p.1 ∈ allowed method) = true := by
    cases hallowed : s.channel.params with
    | none => rfl
    | some allowed =>
      refine List.all_eq_true.mpr fun param hparam => ?_
      exact decide_eq_true (hparams allowed hallowed param hparam)
  have hrespond : s.respond 0 (body (requestFields s.channel.codec requestId method params)) =
      ([.handled method params],.ok bytes) := by
    rw [respond,decode_own hrequest,if_neg (Nat.not_lt.mpr (Nat.le_of_lt hfits)),if_neg hid,if_pos hmethod,if_pos hadmitted]
    exact congrArg _ hanswer
  have hcut : cut newline (stream arrivals) = ([body (requestFields s.channel.codec requestId method params)],[]) := by
    rw [harrived,hline,cut_line (body_open _)]
    rfl
  have hhandle : s.handle (some p) arrivals = [.handled method params,.sent bytes] := by
    rw [handle_served arrivals (authorize_iff.mpr hpeer),hcut,conversation_one hfits,hrespond]
    simp [send,hsends]
  obtain ⟨payload,reply,hmade,hdecode,houtcome⟩ := decode_answer hid hanswer
  obtain ⟨hbytes,hshort⟩ := frame_ok hmade
  have hread := firstLine_frame silence hmade (hlegible payload (by rw [hhandle,← hbytes]; simp))
  have hreplies : replies [.handled method params,.sent bytes] = bytes := List.append_nil _
  rw [houtcome,hhandle]
  refine ⟨rfl,?_⟩
  simp only [call,hframe,hreplies,hread.1,LineProtocol.call,hdecode _ (Nat.le_of_lt hshort),if_pos]

theorem call_served_ping : requests (pingServer.handle (some ⟨0,0⟩) pingArrivals) = [("ping",[])] ∧
    pingServer.call "1" "ping" [] (.written silent) "agent_unavailable" (pingServer.handle (some ⟨0,0⟩) pingArrivals) = .ok [] := by
  have hrequest : request pingServer.channel "1" "ping" [] = .ok (body pingRequest ++ [newline]) := rfl
  exact call_served (.inl (by decide)) (by decide) hrequest rfl (fun _ h => by cases h) ping_reads.1 ping_legible rfl rfl

end Server

end LineServer
end LocalPlane
