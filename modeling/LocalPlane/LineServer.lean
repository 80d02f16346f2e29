import LocalPlane.JsonText
import LocalPlane.LineFraming
import LocalPlane.LineProtocol

/-!
# The server behind a socket

A connection is judged by the kernel's word on who is at its other end, before a byte of it is
read. Then one line after another is taken as a request and answered on a line of its own. What
is done and answered hangs on the bytes alone, not on the pieces they come in.
-/

set_option linter.dupNamespace false

namespace LocalPlane
namespace LineServer

open Framing
open LineProtocol

abbrev Bytes := List UInt8

def newline : UInt8 := 10

def unsupportedMethod : String := "unsupported_method"
def invalidParams : String := "invalid_params"
def unauthorizedPeer : String := "unauthorized_peer"

/-- A codec with its closed set of methods and, where they are checked here, the parameters of each. -/
structure Channel where
  codec : Codec
  methods : List String
  params : Option (String → List String)

/-- `LineProtocolError` -/
structure Refusal where
  code : String
  message : String
  detail : Fields

/-- What serving a request raises: a refusal, or anything else with its own text. -/
inductive Raised where
  | refused (refusal : Refusal)
  | failed (text : String)

structure Peer where
  uid : ℕ
  gid : ℕ
  deriving DecidableEq

structure Allowlist where
  uids : List ℕ
  gids : List ℕ

def Allowlist.authorize (a : Allowlist) (peer : Peer) : Bool × String :=
  if peer.uid ∈ a.uids then (true,"uid_allowed")
  else if a.gids ≠ [] ∧ peer.gid ∈ a.gids then (true,"gid_allowed")
  else if a.uids = [] ∧ a.gids = [] then (false,"no_peer_is_allowed")
  else (false,"peer_uid_not_allowed")

/-- What waiting on the connection brings. -/
inductive Arrival where
  | piece (bytes : Bytes)
  | failed | closed
  deriving DecidableEq

/-- What has come in all, up to where the connection ended. -/
def stream : List Arrival → Bytes
  | .piece bytes :: rest => bytes ++ stream rest
  | _ => []

@[simp] theorem stream_nil : stream [] = [] := rfl
@[simp] theorem stream_piece (bytes : Bytes) (rest : List Arrival) : stream (.piece bytes :: rest) = bytes ++ stream rest := rfl
@[simp] theorem stream_failed (rest : List Arrival) : stream (.failed :: rest) = [] := rfl
@[simp] theorem stream_closed (rest : List Arrival) : stream (.closed :: rest) = [] := rfl

inductive Ending where
  | waiting | failed | closed
  deriving DecidableEq

def ending : List Arrival → Ending
  | .piece _ :: rest => ending rest
  | .failed :: _ => .failed
  | .closed :: _ => .closed
  | [] => .waiting

/-- What comes of a connection: a request is handed to the service, a frame is sent, bytes are thrown away. -/
inductive Event where
  | handled (method : String) (params : Fields)
  | sent (frame : Bytes)
  | discarded (bytes : ℕ)

def Event.request : Event → Option (String × Fields)
  | .handled method params => some (method,params)
  | _ => none

def Event.bytes : Event → Bytes
  | .sent frame => frame
  | _ => []

def requests (events : List Event) : List (String × Fields) := events.filterMap Event.request

def replies (events : List Event) : Bytes := events.flatMap Event.bytes

section Codec

variable (c : LineProtocol.Codec)

def body (payload : Fields) : Bytes := (JsonText.dumps (.obj payload)).map fun ch => ch.toNat.toUInt8

def frame (payload : Fields) : Except String Bytes :=
  if c.maxMessageBytes < (body payload).length + 1 then .error messageTooLarge else .ok (body payload ++ [newline])

def requestFields (requestId method : String) (params : Fields) : Fields :=
  [(c.envelopeKey,.str c.version),("request_id",.str requestId),("method",.str method),("params",.obj params)]

def okFields (requestId : String) (result : Fields) : Fields :=
  [(c.envelopeKey,.str c.version),("request_id",.str requestId),("ok",.bool true),("result",.obj result)]

def failureFields (requestId : String) (e : Refusal) : Fields :=
  [(c.envelopeKey,.str c.version),("request_id",.str requestId),("ok",.bool false),
    ("error",.obj [("code",.str e.code),("message",.str e.message),("detail",.obj e.detail)])]

def ok (requestId : String) (result : Fields) : Except String Bytes := frame c (okFields c requestId result)

def failure (requestId : String) (e : Refusal) : Except String Bytes := frame c (failureFields c requestId e)

/-- A frame that cannot be made tells its own size. -/
def tooLarge (payload : Fields) : Refusal :=
  ⟨messageTooLarge,"encoded message exceeds the protocol ceiling",
    [("bytes",.num ((body payload).length + 1)),("limit",.num c.maxMessageBytes)]⟩

def overlong : Refusal := ⟨messageTooLarge,"message exceeds the protocol ceiling",[("limit",.num c.maxMessageBytes)]⟩

def unterminated : Refusal := ⟨malformedMessage,"frame is not newline terminated",[]⟩

/-- One message of the stream: none where it ended cleanly. -/
def readMessage (line : Bytes) : Except Refusal (Option Bytes) :=
  if line = [] then .ok none
  else if c.maxMessageBytes < line.length then .error (overlong c)
  else if line.getLast? = some newline then .ok (some line.dropLast)
  else .error unterminated

end Codec

section Requests

variable (ch : Channel) (loads : Bytes → Option Json)

/-- Whose request, which method and with what parameters; otherwise the code it is refused with. -/
def decodeRequest (raw : Bytes) : Except String (String × String × Fields) :=
  match ch.codec.envelope ⟨raw.length,loads raw⟩ ["request_id","method","params"] with
  | .error code => .error code
  | .ok (payload,requestId) =>
    match payload.lookup "method" with
    | some (.str method) =>
      if method ∈ ch.methods then
        match payload.lookup "params" with
        | some (.obj params) =>
          if (ch.params.elim true fun allowed => params.all fun p => p.1 ∈ allowed method) then .ok (requestId,method,params)
          else .error unknownField
        | none | some .null | some (.bool false) | some (.num 0) | some (.str "") | some (.arr []) => .ok (requestId,method,[])
        | some _ => .error invalidParams
      else .error unsupportedMethod
    | _ => .error malformedMessage

/-- `Codec.request`: what a client may ask, in one frame. -/
def request (requestId method : String) (params : Fields) : Except String Bytes :=
  if method ∈ ch.methods then frame ch.codec (requestFields ch.codec requestId method params) else .error unsupportedMethod

end Requests

/-- A listening socket: how frames are read as JSON, what is said of one that is refused, what the service
does with its requests one after another, and whether an answer gets through. -/
structure Server where
  channel : Channel
  allowed : Allowlist
  loads : Bytes → Option Json
  told : Bytes → String → String × Fields
  handler : ℕ → String → Fields → Except Raised Fields
  sends : ℕ → Bool

namespace Server

variable (s : Server)

def limit : ℕ := s.channel.codec.maxMessageBytes

/-- The frame that answers a request the service has been given. -/
def answer (n : ℕ) (requestId method : String) (params : Fields) : Except String Bytes :=
  match s.handler n method params with
  | .error (.refused e) => failure s.channel.codec requestId e
  | .error (.failed text) => failure s.channel.codec requestId ⟨internalError,text,[("method",.str method)]⟩
  | .ok result =>
    match ok s.channel.codec requestId result with
    | .ok frame => .ok frame
    | .error _ => failure s.channel.codec requestId (tooLarge s.channel.codec (okFields s.channel.codec requestId result))

/-- What the service makes of one line, and the frame that answers it. -/
def respond (n : ℕ) (raw : Bytes) : List Event × Except String Bytes :=
  match decodeRequest s.channel s.loads raw with
  | .error code => ([],failure s.channel.codec uncorrelatedRequestId ⟨code,(s.told raw code).1,(s.told raw code).2⟩)
  | .ok (requestId,method,params) => ([.handled method params],s.answer n requestId method params)

/-- A frame is sent if it could be made and gets through. -/
def send (n : ℕ) : Except String Bytes → List Event
  | .ok frame => if s.sends n then [.sent frame] else []
  | .error _ => []

/-- `readline`: one line, a bounded start of one, or the rest of the stream. -/
def readline (s : Server) : Bytes → List Arrival → Option (Except Unit (Bytes × Bytes × List Arrival))
  | buffer,arrivals =>
    match upTo newline (s.limit + 1) buffer with
    | some (line,left) => some (.ok (line,left,arrivals))
    | none =>
      match arrivals with
      | [] => none
      | .piece bytes :: rest => s.readline (buffer ++ bytes) rest
      | .failed :: _ => some (.error ())
      | .closed :: rest => some (.ok (buffer,[],.closed :: rest))

/-- `handle`, once the peer may speak: a request at a time, for so many at most. -/
def serve : ℕ → Bytes → List Arrival → ℕ → List Event
  | 0,_,_,_ => []
  | fuel + 1,buffer,arrivals,n =>
    match s.readline buffer arrivals with
    | none => []
    | some (.error _) => []
    | some (.ok (line,left,rest)) =>
      match readMessage s.channel.codec line with
      | .error e => s.send n (failure s.channel.codec uncorrelatedRequestId e)
      | .ok none => []
      | .ok (some raw) =>
        match s.send n (s.respond n raw).2 with
        | [] => (s.respond n raw).1
        | sent => (s.respond n raw).1 ++ sent ++ serve fuel left rest (n + 1)

/-- Bytes of a peer that may not speak are thrown away, up to a bound, until it closes. -/
def discard : ℕ → List Arrival → ℕ
  | remaining,.piece bytes :: rest =>
    if bytes = [] then 0 else if bytes.length < remaining then bytes.length + discard (remaining - bytes.length) rest else remaining
  | _,_ => 0

def refuse (message : String) (detail : Fields) (arrivals : List Arrival) : List Event :=
  match failure s.channel.codec uncorrelatedRequestId ⟨unauthorizedPeer,message,detail⟩ with
  | .error _ => []
  | .ok frame => if s.sends 0 then [.sent frame,.discarded (discard (s.limit + 1) arrivals)] else []

def ids (l : List ℕ) : Json := .arr (l.map fun n => .num n)

def handle (peer : Option Peer) (arrivals : List Arrival) : List Event :=
  match peer with
  | none => s.refuse "peer credentials could not be read" [] arrivals
  | some peer =>
    if (s.allowed.authorize peer).1 then s.serve ((stream arrivals).length + 1) [] arrivals 0
    else s.refuse "peer is not authorized to reach this socket"
      [("reason",.str (s.allowed.authorize peer).2),("peer_uid",.num peer.uid),("peer_gid",.num peer.gid),
        ("allowed_uids",ids (s.allowed.uids.mergeSort (· ≤ ·))),("allowed_gids",ids (s.allowed.gids.mergeSort (· ≤ ·)))] arrivals

/-- What is done about lines that have ended and what is open behind them. -/
def conversation (e : Ending) (pending : Bytes) : List Bytes → ℕ → List Event
  | [],n =>
    if s.limit < pending.length then s.send n (failure s.channel.codec uncorrelatedRequestId (overlong s.channel.codec))
    else if e = .closed ∧ pending ≠ [] then s.send n (failure s.channel.codec uncorrelatedRequestId unterminated)
    else []
  | line :: lines,n =>
    if s.limit ≤ line.length then s.send n (failure s.channel.codec uncorrelatedRequestId (overlong s.channel.codec))
    else match s.send n (s.respond n line).2 with
      | [] => (s.respond n line).1
      | sent => (s.respond n line).1 ++ sent ++ conversation e pending lines (n + 1)

variable {s}

section Reading

variable {buffer line left : Bytes} {arrivals : List Arrival} {n : ℕ}

/-- A line is read as soon as it is there, whatever pieces it comes in. -/
theorem readline_taken (h : upTo newline (s.limit + 1) (buffer ++ stream arrivals) = some (line,left)) :
    ∃ kept rest, s.readline buffer arrivals = some (.ok (line,kept,rest)) ∧ kept ++ stream rest = left ∧ ending rest = ending arrivals := by
  induction arrivals generalizing buffer with
  | nil =>
    rw [stream_nil,List.append_nil] at h
    exact ⟨left,[],by simp [readline,h],by simp,rfl⟩
  | cons arrival arrivals ih =>
    cases htaken : upTo newline (s.limit + 1) buffer with
    | some taken =>
      obtain ⟨line',kept⟩ := taken
      have happend := upTo_append htaken (stream (arrival :: arrivals))
      rw [h] at happend
      cases happend
      exact ⟨kept,arrival :: arrivals,by unfold readline; rw [htaken],rfl,rfl⟩
    | none =>
      cases arrival with
      | piece bytes =>
        rw [stream_piece,← List.append_assoc] at h
        obtain ⟨kept,rest,hread,hleft,hending⟩ := ih h
        exact ⟨kept,rest,by unfold readline; rw [htaken]; exact hread,hleft,hending⟩
      | failed =>
        rw [stream_failed,List.append_nil,htaken] at h
        cases h
      | closed =>
        rw [stream_closed,List.append_nil,htaken] at h
        cases h

/-- Otherwise it is waited for, until the connection ends. -/
theorem readline_open (h : upTo newline (s.limit + 1) (buffer ++ stream arrivals) = none) :
    (ending arrivals = .waiting → s.readline buffer arrivals = none) ∧
    (ending arrivals = .failed → s.readline buffer arrivals = some (.error ())) ∧
    (ending arrivals = .closed → ∃ rest, s.readline buffer arrivals = some (.ok (buffer ++ stream arrivals,[],rest))) := by
  induction arrivals generalizing buffer with
  | nil =>
    rw [stream_nil,List.append_nil] at h
    exact ⟨fun _ => by simp [readline,h],fun he => (by cases he),fun he => (by cases he)⟩
  | cons arrival arrivals ih =>
    have htaken : upTo newline (s.limit + 1) buffer = none := by
      cases htaken : upTo newline (s.limit + 1) buffer with
      | none => rfl
      | some taken =>
        rw [upTo_append htaken (stream (arrival :: arrivals))] at h
        cases h
    unfold readline
    rw [htaken]
    cases arrival with
    | piece bytes =>
      rw [stream_piece,← List.append_assoc] at h
      rw [stream_piece,← List.append_assoc]
      exact ih h
    | failed => exact ⟨fun he => (by cases he),fun _ => rfl,fun he => (by cases he)⟩
    | closed =>
      refine ⟨fun he => (by cases he),fun he => (by cases he),fun _ => ⟨.closed :: arrivals,?_⟩⟩
      rw [stream_closed,List.append_nil]

end Reading

section Serving

variable {buffer line pending : Bytes} {lines : List Bytes} {arrivals : List Arrival} {n fuel : ℕ}

theorem readMessage_line (c : LineProtocol.Codec) (h : line.length < c.maxMessageBytes) :
    readMessage c (line ++ [newline]) = .ok (some line) := by
  have hlength : ¬c.maxMessageBytes < (line ++ [newline]).length := by
    simp only [List.length_append,List.length_singleton]
    omega
  rw [readMessage,if_neg (by simp),if_neg hlength,if_pos (by simp),List.dropLast_concat]

theorem readMessage_overlong (c : LineProtocol.Codec) (h : c.maxMessageBytes < line.length) : readMessage c line = .error (overlong c) := by
  have hne : line ≠ [] := by
    rintro rfl
    cases h
  rw [readMessage,if_neg hne,if_pos h]

theorem readMessage_open (c : LineProtocol.Codec) (hopen : newline ∉ pending) (hne : pending ≠ [])
    (h : pending.length ≤ c.maxMessageBytes) : readMessage c pending = .error unterminated := by
  have hlast : pending.getLast? ≠ some newline := fun hlast => hopen (List.mem_of_getLast? hlast)
  rw [readMessage,if_neg hne,if_neg (Nat.not_lt.mpr h),if_neg hlast]

/-- More than may be taken, without a separator in it or right behind the bound, is refused. -/
theorem serve_overlong {left : Bytes} (htaken : upTo newline (s.limit + 1) (buffer ++ stream arrivals) = some (line,left))
    (hlong : s.limit < line.length) : s.serve (fuel + 1) buffer arrivals n =
      s.send n (failure s.channel.codec uncorrelatedRequestId (overlong s.channel.codec)) := by
  obtain ⟨kept,rest,hread,-,-⟩ := readline_taken htaken
  simp only [serve,hread,readMessage_overlong s.channel.codec hlong]

theorem serve_open (hopen : newline ∉ buffer ++ stream arrivals) (hshort : (buffer ++ stream arrivals).length ≤ s.limit) :
    s.serve (fuel + 1) buffer arrivals n = s.conversation (ending arrivals) (buffer ++ stream arrivals) [] n := by
  obtain ⟨hwaiting,hfailed,hclosed⟩ := readline_open (upTo_open hopen (Nat.lt_succ_of_le hshort))
  rw [conversation,if_neg (Nat.not_lt.mpr hshort)]
  cases hending : ending arrivals with
  | waiting => simp [serve,hwaiting hending]
  | failed => simp [serve,hfailed hending]
  | closed =>
    obtain ⟨rest,hread⟩ := hclosed hending
    by_cases hempty : buffer ++ stream arrivals = []
    · rw [if_neg fun h => h.2 hempty]
      simp [serve,hread,hempty,readMessage]
    · rw [if_pos ⟨rfl,hempty⟩]
      simp only [serve,hread,readMessage_open s.channel.codec hopen hempty hshort]

/-- What is done and answered is that of the lines of the whole stream. -/
theorem serve_conversation (hfuel : (buffer ++ stream arrivals).length < fuel) : s.serve fuel buffer arrivals n =
    s.conversation (ending arrivals) (cut newline (buffer ++ stream arrivals)).2 (cut newline (buffer ++ stream arrivals)).1 n := by
  induction fuel generalizing buffer arrivals n with
  | zero => cases hfuel
  | succ fuel ih =>
    obtain ⟨hjoin,hlines,hopen⟩ := cut_sound newline (buffer ++ stream arrivals)
    generalize cut newline (buffer ++ stream arrivals) = split at hjoin hlines hopen
    obtain ⟨lines,pending⟩ := split
    cases lines with
    | nil =>
      have htotal : buffer ++ stream arrivals = pending := hjoin
      by_cases hshort : pending.length ≤ s.limit
      · rw [← htotal] at hopen hshort ⊢
        exact serve_open hopen hshort
      · have hlong := Nat.lt_of_not_le hshort
        have htaken : upTo newline (s.limit + 1) (buffer ++ stream arrivals) = some (pending.take (s.limit + 1),pending.drop (s.limit + 1)) := by
          have h := upTo_long hopen (Nat.succ_le_of_lt hlong) []
          rw [htotal]
          rwa [List.append_nil,List.append_nil] at h
        rw [serve_overlong htaken (by rw [List.length_take]; omega),conversation,if_pos hlong]
    | cons line lines =>
      have hline : newline ∉ line := hlines line List.mem_cons_self
      have htotal : buffer ++ stream arrivals = line ++ newline :: (ended newline lines ++ pending) := by
        rw [hjoin]
        simp [ended]
      rw [conversation]
      by_cases hlong : s.limit ≤ line.length
      · rw [if_pos hlong]
        rcases Nat.lt_or_eq_of_le hlong with hlonger | hexact
        · have htaken := upTo_long hline (Nat.succ_le_of_lt hlonger) (newline :: (ended newline lines ++ pending))
          rw [← htotal] at htaken
          exact serve_overlong htaken (by rw [List.length_take]; omega)
        · have htaken := upTo_line hline (Nat.lt_succ_of_le (Nat.le_of_eq hexact.symm)) (ended newline lines ++ pending)
          rw [← htotal] at htaken
          exact serve_overlong htaken (by simp [hexact])
      · rw [if_neg hlong]
        have hshort := Nat.lt_of_not_le hlong
        have htaken := upTo_line hline (Nat.lt_succ_of_lt hshort) (ended newline lines ++ pending)
        rw [← htotal] at htaken
        obtain ⟨kept,rest,hread,hkept,hending⟩ := readline_taken htaken
        have hrest : (kept ++ stream rest).length < fuel := by
          rw [htotal] at hfuel
          rw [hkept]
          simp only [List.length_append,List.length_cons] at hfuel ⊢
          omega
        have hcut : cut newline (kept ++ stream rest) = (lines,pending) := by
          rw [hkept,cut_ended fun l hl => hlines l (List.mem_cons_of_mem _ hl)]
          rw [cut_open hopen,List.append_nil]
        have hnext := ih hrest (n := n + 1)
        rw [hcut,hending] at hnext
        simp only [serve,hread,readMessage_line s.channel.codec hshort,hnext]

end Serving

section Answers

variable {e : Ending} {pending line : Bytes} {lines : List Bytes} {arrivals : List Arrival} {n : ℕ} {event : Event} {bytes : Bytes}

theorem body_open (payload : Fields) : newline ∉ body payload := by
  intro hmem
  obtain ⟨c,hc,heq⟩ := List.mem_map.mp hmem
  obtain ⟨hlow,hhigh⟩ := JsonText.printable_dumps _ c hc
  have hbyte : c.toNat.toUInt8.toNat = 10 := by rw [heq]; rfl
  simp only [Nat.toUInt8,UInt8.toNat_ofNat'] at hbyte
  omega

/-- A frame is one line, and fits. -/
structure Framed (c : LineProtocol.Codec) (bytes : Bytes) : Prop where
  line : ∃ payload, bytes = body payload ++ [newline]
  fits : bytes.length ≤ c.maxMessageBytes

theorem framed_of_frame {c : LineProtocol.Codec} {payload : Fields} (h : frame c payload = .ok bytes) : Framed c bytes := by
  unfold frame at h
  split at h
  · cases h
  · next hfits =>
    cases h
    exact ⟨⟨payload,rfl⟩,by simp only [List.length_append,List.length_singleton]; omega⟩

theorem framed_of_answer {requestId method : String} {params : Fields} (h : s.answer n requestId method params = .ok bytes) :
    Framed s.channel.codec bytes := by
  unfold answer at h
  split at h
  · exact framed_of_frame h
  · exact framed_of_frame h
  · split at h
    · next hframe =>
      cases h
      exact framed_of_frame hframe
    · exact framed_of_frame h

theorem framed_of_respond (h : (s.respond n line).2 = .ok bytes) : Framed s.channel.codec bytes := by
  unfold respond at h
  split at h
  · exact framed_of_frame h
  · exact framed_of_answer h

theorem mem_send {reply : Except String Bytes} (h : event ∈ s.send n reply) : ∃ bytes, reply = .ok bytes ∧ event = .sent bytes := by
  unfold send at h
  split at h
  · split at h
    · exact ⟨_,rfl,List.mem_singleton.mp h⟩
    · cases h
  · cases h

theorem mem_respond (h : event ∈ (s.respond n line).1) : ∃ requestId method params,
    decodeRequest s.channel s.loads line = .ok (requestId,method,params) ∧ event = .handled method params := by
  unfold respond at h
  split at h
  · cases h
  · next requestId method params hdecode => exact ⟨requestId,method,params,hdecode,List.mem_singleton.mp h⟩

theorem sent_framed (h : .sent bytes ∈ s.conversation e pending lines n) : Framed s.channel.codec bytes := by
  have hfailure : ∀ {refusal : Refusal} {n : ℕ}, .sent bytes ∈ s.send n (failure s.channel.codec uncorrelatedRequestId refusal) →
      Framed s.channel.codec bytes := by
    intro refusal n hmem
    obtain ⟨frame,hframe,heq⟩ := mem_send hmem
    cases heq
    exact framed_of_frame hframe
  induction lines generalizing n with
  | nil =>
    rw [conversation] at h
    split at h
    · exact hfailure h
    · split at h
      · exact hfailure h
      · cases h
  | cons line lines ih =>
    have hreply : .sent bytes ∈ (s.respond n line).1 → Framed s.channel.codec bytes := by
      intro hmem
      obtain ⟨_,_,_,-,heq⟩ := mem_respond hmem
      cases heq
    rw [conversation] at h
    split at h
    · exact hfailure h
    · split at h
      · exact hreply h
      · next sent _ =>
        rcases List.mem_append.mp h with h | h
        · rcases List.mem_append.mp h with h | h
          · exact hreply h
          · obtain ⟨frame,hframe,heq⟩ := mem_send h
            cases heq
            exact framed_of_respond hframe
        · exact ih h

theorem requests_append (l l' : List Event) : requests (l ++ l') = requests l ++ requests l' := List.filterMap_append

theorem replies_append (l l' : List Event) : replies (l ++ l') = replies l ++ replies l' := List.flatMap_append

theorem requests_send (reply : Except String Bytes) : requests (s.send n reply) = [] := by
  refine List.filterMap_eq_nil_iff.mpr fun event hmem => ?_
  obtain ⟨bytes,-,rfl⟩ := mem_send hmem
  rfl

/-- What a line asks of the service, if it asks anything. -/
def ask (s : Server) (raw : Bytes) : Option (String × Fields) := (decodeRequest s.channel s.loads raw).toOption.map Prod.snd

theorem requests_respond : requests (s.respond n line).1 = (s.ask line).toList := by
  unfold respond ask
  split
  · next h =>
    rw [h]
    rfl
  · next h =>
    rw [h]
    rfl

/-- The lines are taken in their order, each once, up to the first that is too long or whose answer does not get through. -/
theorem requests_conversation : ∃ k, (∀ raw ∈ lines.take k, raw.length < s.limit) ∧
    requests (s.conversation e pending lines n) = (lines.take k).filterMap s.ask := by
  induction lines generalizing n with
  | nil =>
    refine ⟨0,fun _ h => absurd h List.not_mem_nil,?_⟩
    rw [conversation]
    split
    · exact requests_send _
    · split
      · exact requests_send _
      · rfl
  | cons line lines ih =>
    rw [conversation]
    split
    · exact ⟨0,fun _ h => absurd h List.not_mem_nil,requests_send _⟩
    · next hshort =>
      have hline := Nat.lt_of_not_le hshort
      split
      · refine ⟨1,fun raw hraw => ?_,?_⟩
        · cases List.mem_singleton.mp hraw
          exact hline
        · rw [requests_respond]
          cases h : s.ask line <;> simp [h]
      · next sent _ =>
        obtain ⟨k,hk,hrequests⟩ := ih (n := n + 1)
        refine ⟨k + 1,fun raw hraw => ?_,?_⟩
        · rcases List.mem_cons.mp hraw with rfl | hraw
          · exact hline
          · exact hk raw hraw
        · rw [requests_append,requests_append,requests_respond,requests_send,hrequests,List.append_nil,List.take_succ_cons]
          cases h : s.ask line <;> simp [h]

theorem authorize_iff {a : Allowlist} {peer : Peer} : (a.authorize peer).1 = true ↔ peer.uid ∈ a.uids ∨ peer.gid ∈ a.gids := by
  unfold Allowlist.authorize
  split
  · next h => simp [h]
  · next huid =>
    split
    · next h => simp [h.2]
    · next hgid =>
      have hnot : peer.gid ∉ a.gids := fun h => hgid ⟨List.ne_nil_of_mem h,h⟩
      split <;> simp [huid,hnot]

theorem discard_le (arrivals : List Arrival) (remaining : ℕ) : discard remaining arrivals ≤ remaining := by
  induction arrivals generalizing remaining with
  | nil => simp [discard]
  | cons arrival arrivals ih =>
    cases arrival with
    | piece bytes =>
      unfold discard
      split
      · exact Nat.zero_le _
      · split
        · have h := ih (remaining - bytes.length)
          omega
        · exact Nat.le_refl _
    | failed => exact Nat.zero_le _
    | closed => exact Nat.zero_le _

/-- Whom the connection is not for gets one refusal, and nothing it says is looked at. -/
theorem refuse_exact (message : String) (detail : Fields) (arrivals : List Arrival) :
    s.refuse message detail arrivals = [] ∨ ∃ frame count, s.refuse message detail arrivals = [.sent frame,.discarded count] ∧
      failure s.channel.codec uncorrelatedRequestId ⟨unauthorizedPeer,message,detail⟩ = .ok frame ∧ count ≤ s.limit + 1 := by
  unfold refuse
  split
  · exact .inl rfl
  · next frame hframe =>
    split
    · exact .inr ⟨frame,_,rfl,hframe,discard_le _ _⟩
    · exact .inl rfl

theorem requests_refuse (message : String) (detail : Fields) (arrivals : List Arrival) :
    requests (s.refuse message detail arrivals) = [] := by
  rcases s.refuse_exact message detail arrivals with h | ⟨frame,count,h,-⟩
  · rw [h]
    rfl
  · rw [h]
    rfl

theorem framed_of_refuse {message : String} {detail : Fields} (h : .sent bytes ∈ s.refuse message detail arrivals) :
    Framed s.channel.codec bytes := by
  rcases s.refuse_exact message detail arrivals with heq | ⟨frame,count,heq,hframe,-⟩
  · rw [heq] at h
    cases h
  · rw [heq] at h
    rcases List.mem_cons.mp h with hsent | hrest
    · cases hsent
      exact framed_of_frame hframe
    · cases List.mem_singleton.mp hrest

theorem handle_served {peer : Peer} (arrivals : List Arrival) (h : (s.allowed.authorize peer).1 = true) : s.handle (some peer) arrivals =
    s.conversation (ending arrivals) (cut newline (stream arrivals)).2 (cut newline (stream arrivals)).1 0 := by
  rw [handle,if_pos h]
  exact serve_conversation (Nat.lt_succ_self _)

theorem handle_refused {peer : Option Peer} (arrivals : List Arrival) (h : ∀ p, peer = some p → (s.allowed.authorize p).1 ≠ true) :
    ∃ message detail, s.handle peer arrivals = s.refuse message detail arrivals := by
  cases peer with
  | none => exact ⟨_,_,rfl⟩
  | some peer =>
    rw [handle,if_neg (h peer rfl)]
    exact ⟨_,_,rfl⟩

end Answers

end Server

end LineServer
end LocalPlane
