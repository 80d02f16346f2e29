import LocalPlane.HelperService

/-!
# Setting one interface's MTU, from the socket up

The link is looked up over one socket and the mutating frame leaves over another. Each
answer is taken apart byte by byte, and what cannot be taken apart has to end in a report.
-/

set_option linter.dupNamespace false

namespace LocalPlane
namespace Netlink

def ifinfomsgSize : ℕ := 16
def rtattrSize : ℕ := 4
def iflaIfname : ℕ := 3
def iflaMtu : ℕ := 4
def enodev : Int := 19

/-- The messages a datagram yields before it ends or is found malformed, and whether it was. -/
def yields : ℕ → Bytes → List Message × Bool
  | 0,_ => ([],false)
  | bound+1,reply =>
    if reply.length < headerSize then ([],false)
    else
      let length := unsigned 4 reply 0
      if length < headerSize ∨ reply.length < length then ([],true)
      else if unsigned 2 reply 4 = nlmsgDone then ([],false)
      else
        let rest := yields bound (reply.drop ((length + 3) / 4 * 4))
        (⟨unsigned 2 reply 4,unsigned 4 reply 8,(reply.take length).drop headerSize⟩ :: rest.1,rest.2)

/-- The attributes after a link's header; one that is too short or too long ends them. -/
def attributesFrom : ℕ → Bytes → List (ℕ × Bytes)
  | 0,_ => []
  | bound+1,body =>
    if body.length < rtattrSize then []
    else
      let length := unsigned 2 body 0
      if length < rtattrSize ∨ body.length < length then []
      else (unsigned 2 body 2,(body.take length).drop rtattrSize) ::
        attributesFrom bound (body.drop ((length + 3) / 4 * 4))

def attributes (body : Bytes) : List (ℕ × Bytes) := attributesFrom body.length (body.drop ifinfomsgSize)

/-- An attribute that is given twice is read as it was given last. -/
def attributeOf (kind : ℕ) (body : Bytes) : Option Bytes :=
  ((attributes body).reverse.find? (·.1 = kind)).map (·.2)

/-- The text up to the first zero byte, where it is text. -/
def text (payload : Bytes) : Option String :=
  String.fromUTF8? ⟨(payload.takeWhile (· ≠ 0)).toArray⟩

def uint32 (payload : Bytes) : Option Int :=
  if payload.length < 4 then none else some (unsigned 4 payload 0)

end Netlink

namespace Helper

open Netlink

/-- A link as one message describes it, where the message is long enough to. -/
def linkFacts (body : Bytes) : Option (Int × LinkFacts) :=
  if body.length < ifinfomsgSize then none
  else some (signed32 body 4,⟨(attributeOf iflaIfname body).bind text,(attributeOf iflaMtu body).bind uint32⟩)

/-- The text of an error number can be asked for only where the number fits a C integer. -/
def strerrorRaises (number : Int) : Bool := 0x80000000 ≤ number

theorem rest_shorter (message : Message) (rest : List Message) : rest.length < (message :: rest).length :=
  Nat.lt_succ_self _

/-- The kernel's answer to a link query, message by message as the datagram yields them. -/
def interpretLink (ifindex : Int) (sequence : ℕ) : List Message × Bool → LinkReading
  | ([],malformed) => .refused (if malformed then "malformed_netlink_response" else "no_link_in_reply")
  | (message :: rest,malformed) =>
    if message.kind = nlmsgError then
      if message.body.length < 4 then .raised
      else
        let number := -(signed32 message.body 0)
        if number = 0 then interpretLink ifindex sequence (rest,malformed)
        else if strerrorRaises number then .raised
        else .refused (if number = enodev then "interface_not_found" else "link_query_rejected")
    else if message.kind = rtmNewlink then
      if message.sequence ≠ sequence then .refused "link_reply_uncorrelated"
      else match linkFacts message.body with
        | none => .refused "no_link_in_reply"
        | some (found,link) => if found ≠ ifindex then .refused "link_reply_wrong_interface" else .facts link
    else interpretLink ifindex sequence (rest,malformed)
termination_by answer => answer.1.length
decreasing_by all_goals exact rest_shorter message rest

def receiveBytes : ℕ := 32 * 1024

/-- What became of waiting for one datagram, with the port it came from where it has one. -/
inductive Arrival where
  | timeout
  | error
  | datagram (payload : Bytes) (sender : Option ℕ)

/-- One exchange over a socket of its own: whether it opens, whether it is bound and the frame is
sent, what arrives, and whether closing it succeeds. -/
structure SocketRun where
  opens : Bool
  sends : Bool
  arrival : Arrival
  closes : Bool

namespace SocketRun

variable (run : SocketRun)

/-- The frame was taken by a socket. -/
def accepts : Bool := run.opens && run.sends

/-- A datagram longer than the buffer is cut. -/
def answer : Delivery :=
  match run.arrival with
  | .timeout => .unanswered "acknowledgement_timeout"
  | .error => .unanswered "acknowledgement_not_received"
  | .datagram payload sender =>
    if sender = some 0 then .answered (payload.take receiveBytes) else .unanswered "acknowledgement_not_from_kernel"

/-- What an exchange comes to, unless closing its socket raises in place of it. -/
def exchange : Option Delivery :=
  if !run.opens then some (.sendFailed "netlink_unavailable")
  else if !run.closes then none
  else if !run.sends then some (.sendFailed "netlink_send_failed")
  else some run.answer

end SocketRun

/-- A sequence number is packed into four bytes. -/
def packs (sequence : ℕ) : Bool := sequence < 0x100000000

/-- Ask the kernel about one link; a failed exchange refuses. -/
def readLink (ifindex : Int) (sequence : ℕ) (run : SocketRun) : LinkReading :=
  if !packs sequence then .raised
  else match run.exchange with
    | none | some .raised => .raised
    | some (.sendFailed reason) | some (.unanswered reason) => .refused reason
    | some (.answered reply) => interpretLink ifindex sequence (yields reply.length reply)

/-- Set one MTU, or say why not; nothing where the handling raised. The counter stands at the last
sequence number used, and the numbers of a valid request fit the fields they are packed into. -/
def setMtu (counter : ℕ) (request : SetMtu) (query mutate : SocketRun) : Option MutationResult :=
  match check request (readLink request.ifindex (counter + 1) query) with
  | .raised => none
  | .refused reason link => some ⟨.notWritten,reason,request,link,none⟩
  | .passed link =>
    if !packs (counter + 2) then none
    else mutate.exchange.bind (conclude request link (counter + 2))

/-- The mutating frame was taken by the socket. -/
def dispatches (counter : ℕ) (request : SetMtu) (query mutate : SocketRun) : Prop :=
  (∃ link, check request (readLink request.ifindex (counter + 1) query) = .passed link) ∧ packs (counter + 2) ∧ mutate.accepts

/-- The kernel's datagram came back over a socket that closed. -/
def SocketRun.Answered (run : SocketRun) (reply : Bytes) : Prop :=
  run.accepts ∧ run.closes ∧ ∃ payload, run.arrival = .datagram payload (some 0) ∧ payload.take receiveBytes = reply

/-- The first report of a whole datagram, where it is about this request. -/
def Reports (reply : Bytes) (sequence : ℕ) (message : Message) : Prop :=
  ∃ found, messages reply = some found ∧ found.find? (·.kind = nlmsgError) = some message ∧
    message.sequence = sequence ∧ ∀ echoed ∈ echoedRequest message.body, echoed = (rtmNewlink,sequence)

/-- The kernel's report carries this error number. -/
def Acknowledges (reply : Bytes) (sequence : ℕ) (errno : Int) : Prop :=
  ∃ message, Reports reply sequence message ∧ 4 ≤ message.body.length ∧ -(signed32 message.body 0) = errno

/-- What one run of the operation owes: a report in every case, and no more claimed in it than was answered. -/
structure Accounted (counter : ℕ) (request : SetMtu) (query mutate : SocketRun) : Prop where
  total : ∃ result, setMtu counter request query mutate = some result
  written : ∀ result, setMtu counter request query mutate = some result → result.outcome = .written →
    dispatches counter request query mutate ∧ ∃ reply, mutate.Answered reply ∧ Acknowledges reply (counter + 2) 0
  notWritten : ∀ result, setMtu counter request query mutate = some result → result.outcome = .notWritten →
    ¬dispatches counter request query mutate ∨
      ∃ reply errno, mutate.Answered reply ∧ Acknowledges reply (counter + 2) errno ∧ errno ≠ 0
  unknown : dispatches counter request query mutate →
    (∀ reply errno, mutate.Answered reply → ¬Acknowledges reply (counter + 2) errno) →
    ∃ result, setMtu counter request query mutate = some result ∧ result.outcome = .writeUnknown

/-- A report is read only where it holds an error number, one that a C integer holds the negative of. -/
def Readable (message : Message) : Prop := 4 ≤ message.body.length ∧ -0x80000000 < signed32 message.body 0

/-- A message the lookup goes past. -/
def PassedOver (message : Message) : Prop :=
  message.kind ≠ rtmNewlink ∧ (message.kind = nlmsgError → 4 ≤ message.body.length ∧ signed32 message.body 0 = 0)

/-- Every report that the lookup comes to can be read. -/
def LookupReadable (found : List Message) : Prop :=
  ∀ before message after, found = before ++ message :: after → (∀ m ∈ before, PassedOver m) →
    message.kind = nlmsgError → Readable message

def AcknowledgementReadable (reply : Bytes) (sequence : ℕ) : Prop :=
  ∀ message, Reports reply sequence message → Readable message

/-- Wherever the lookup and then the write are reached: a sequence number that still fits its four bytes, a
socket that closes, and reports that can be read. -/
def Tractable (counter : ℕ) (request : SetMtu) (query mutate : SocketRun) : Prop :=
  (precheck request = none → packs (counter + 1) ∧ (query.opens → query.closes) ∧
    ∀ reply, query.Answered reply → LookupReadable (yields reply.length reply).1) ∧
  ∀ link, check request (readLink request.ifindex (counter + 1) query) = .passed link →
    packs (counter + 2) ∧ (mutate.opens → mutate.closes) ∧
      ∀ reply, mutate.Answered reply → AcknowledgementReadable reply (counter + 2)

section Lookup

variable {ifindex : Int} {sequence : ℕ} {run : SocketRun} {reply : Bytes}

theorem exchange_answered : run.exchange = some (.answered reply) ↔ run.Answered reply := by
  unfold SocketRun.exchange SocketRun.Answered SocketRun.accepts SocketRun.answer
  cases run.opens <;> cases run.closes <;> cases run.sends <;> cases run.arrival <;> simp
  split_ifs <;> simp_all

theorem exchange_none : run.exchange = none ↔ run.opens ∧ run.closes = false := by
  unfold SocketRun.exchange
  split_ifs <;> simp_all

theorem exchange_not_raised : run.exchange ≠ some .raised := by
  unfold SocketRun.exchange SocketRun.answer
  cases run.arrival <;> split_ifs <;> simp
  split_ifs <;> simp

theorem lookupReadable_nil : LookupReadable [] := fun before message after h => by simp at h

theorem lookupReadable_cons {message : Message} {rest : List Message} : LookupReadable (message :: rest) ↔
    (message.kind = nlmsgError → Readable message) ∧ (PassedOver message → LookupReadable rest) := by
  constructor
  · intro h
    refine ⟨h [] message rest rfl (by simp),fun hpassed before m after he hbefore => ?_⟩
    exact h (message :: before) m after (by rw [he]; rfl) (List.forall_mem_cons.mpr ⟨hpassed,hbefore⟩)
  · rintro ⟨hfirst,hrest⟩ before m after he hbefore
    cases before with
    | nil =>
      obtain ⟨rfl,-⟩ := List.cons.inj he
      exact hfirst
    | cons b before =>
      obtain ⟨rfl,hr⟩ := List.cons.inj he
      obtain ⟨hpassed,hbefore⟩ := List.forall_mem_cons.mp hbefore
      exact hrest hpassed before m after hr hbefore

/-- A report that cannot be read raises; one of no error is passed over; any other refuses. -/
theorem interpretLink_report {message : Message} {rest : List Message} {malformed : Bool} (hkind : message.kind = nlmsgError) :
    interpretLink ifindex sequence (message :: rest,malformed) = .raised ↔
      ¬Readable message ∨ signed32 message.body 0 = 0 ∧ interpretLink ifindex sequence (rest,malformed) = .raised := by
  rw [interpretLink,if_pos hkind,Readable]
  by_cases hlen : message.body.length < 4
  · have hshort : ¬4 ≤ message.body.length := by omega
    simp [hlen,hshort]
  · rw [if_neg hlen]
    have hlen' : 4 ≤ message.body.length := by omega
    by_cases hzero : signed32 message.body 0 = 0
    · simp [hzero,hlen']
    · have hraises : strerrorRaises (-(signed32 message.body 0)) = true ↔ ¬-0x80000000 < signed32 message.body 0 := by
        simp only [strerrorRaises,decide_eq_true_eq]
        omega
      simp only [Int.neg_eq_zero,hzero,if_false,false_and,or_false,hlen',true_and,← hraises]
      split_ifs with h <;> simp [h]

/-- Reading the answer raises exactly at a report it comes to and cannot read. -/
theorem interpretLink_raised {found : List Message} {malformed : Bool} :
    interpretLink ifindex sequence (found,malformed) = .raised ↔ ¬LookupReadable found := by
  induction found with
  | nil =>
    rw [interpretLink]
    exact iff_of_false (fun h => nomatch h) (not_not_intro lookupReadable_nil)
  | cons message rest ih =>
    rw [lookupReadable_cons]
    by_cases hkind : message.kind = nlmsgError
    · have hlink : message.kind ≠ rtmNewlink := by rw [hkind]; decide
      rw [interpretLink_report hkind,ih]
      unfold PassedOver Readable
      tauto
    · simp only [interpretLink,hkind,if_false,false_imp_iff,true_and,PassedOver,and_true]
      by_cases hlink : message.kind = rtmNewlink
      · refine iff_of_false (fun h => ?_) (by simp [hlink])
        rw [if_pos hlink] at h
        split at h
        · cases h
        · split at h
          · cases h
          · split at h <;> cases h
      · simp [hlink,ih]

/-- The lookup raises where its number does not fit, its socket does not close or its answer cannot be read. -/
theorem readLink_raised : readLink ifindex sequence run = .raised ↔
    ¬(packs sequence ∧ (run.opens → run.closes) ∧ ∀ reply, run.Answered reply → LookupReadable (yields reply.length reply).1) := by
  unfold readLink
  cases hpacks : packs sequence with
  | false => simp
  | true =>
    simp only [Bool.not_true,Bool.false_eq_true,if_false,true_and]
    cases hx : run.exchange with
    | none =>
      obtain ⟨hopens,hcloses⟩ := exchange_none.mp hx
      simp [hopens,hcloses]
    | some delivery =>
      have hcloses : run.opens → run.closes := fun hopens => by
        by_contra hne
        rw [exchange_none.mpr ⟨hopens,by simpa using hne⟩] at hx
        cases hx
      have hanswered (reply : Bytes) : run.Answered reply ↔ delivery = .answered reply := by
        rw [← exchange_answered,hx,Option.some.injEq]
      rw [and_iff_right hcloses]
      simp only [hanswered]
      cases delivery with
      | raised => exact absurd hx exchange_not_raised
      | answered reply =>
        have hraised := @interpretLink_raised ifindex sequence (yields reply.length reply).1 (yields reply.length reply).2
        simpa using hraised
      | sendFailed reason => simp
      | unanswered reason => simp

end Lookup

section Acknowledgement

variable {reply : Bytes} {sequence : ℕ} {request : SetMtu} {link : LinkFacts}

theorem any_ne_eq_false {echoed : Option (ℕ × ℕ)} {expected : ℕ × ℕ} :
    echoed.any (· ≠ expected) = false ↔ ∀ found ∈ echoed, found = expected := by
  cases echoed <;> simp

theorem Reports.unique {message message' : Message} (h : Reports reply sequence message)
    (h' : Reports reply sequence message') : message = message' := by
  obtain ⟨found,hfound,hfirst,-⟩ := h
  obtain ⟨found',hfound',hfirst',-⟩ := h'
  obtain rfl := Option.some.inj (hfound.symm.trans hfound')
  exact Option.some.inj (hfirst.symm.trans hfirst')

theorem acknowledgement_reports {message : Message} (h : Reports reply sequence message) :
    acknowledgement reply sequence = if message.body.length < 4 then .raised else .code (-(signed32 message.body 0)) := by
  obtain ⟨found,hfound,hfirst,hsequence,hechoed⟩ := h
  unfold acknowledgement
  rw [hfound]
  dsimp only
  rw [hfirst]
  dsimp only
  rw [if_neg (not_not_intro hsequence),if_neg (by rw [any_ne_eq_false.mpr hechoed]; exact Bool.false_ne_true)]

/-- Without such a report neither a number is read nor anything raised. -/
theorem acknowledgement_unreported (h : ∀ message, ¬Reports reply sequence message) :
    acknowledgement reply sequence ≠ .raised ∧ ∀ errno, acknowledgement reply sequence ≠ .code errno := by
  unfold acknowledgement
  cases hm : messages reply with
  | none => simp
  | some found =>
    cases hf : found.find? (·.kind = nlmsgError) with
    | none => simp [hf]
    | some message =>
      dsimp only
      rw [hf]
      dsimp only
      split_ifs with hsequence hechoed
      · simp
      · simp
      all_goals exact absurd ⟨found,hm,hf,not_not.mp hsequence,any_ne_eq_false.mp (Bool.eq_false_iff.mpr hechoed)⟩ (h message)

theorem acknowledgement_code {errno : Int} : acknowledgement reply sequence = .code errno ↔ Acknowledges reply sequence errno := by
  constructor
  · intro h
    by_cases hr : ∃ message, Reports reply sequence message
    · obtain ⟨message,hr⟩ := hr
      rw [acknowledgement_reports hr] at h
      split_ifs at h with hlen
      exact ⟨message,hr,by omega,Acknowledgement.code.inj h⟩
    · exact absurd h ((acknowledgement_unreported (not_exists.mp hr)).2 errno)
  · rintro ⟨message,hr,hlen,rfl⟩
    rw [acknowledgement_reports hr,if_neg (by omega)]

theorem acknowledgement_raised : acknowledgement reply sequence = .raised ↔
    ∃ message, Reports reply sequence message ∧ message.body.length < 4 := by
  constructor
  · intro h
    by_cases hr : ∃ message, Reports reply sequence message
    · obtain ⟨message,hr⟩ := hr
      rw [acknowledgement_reports hr] at h
      split_ifs at h with hlen
      exact ⟨message,hr,hlen⟩
    · exact absurd h (acknowledgement_unreported (not_exists.mp hr)).1
  · rintro ⟨message,hr,hlen⟩
    rw [acknowledgement_reports hr,if_pos hlen]

/-- What is concluded from a datagram: a write only from a report of no error, a refusal only from one of another. -/
theorem conclude_answered {result : MutationResult} (h : conclude request link sequence (.answered reply) = some result) :
    (result.outcome = .written → Acknowledges reply sequence 0) ∧
      (result.outcome = .notWritten → ∃ errno, Acknowledges reply sequence errno ∧ errno ≠ 0) := by
  rw [conclude] at h
  cases ha : acknowledgement reply sequence with
  | code errno =>
    simp only [ha] at h
    split_ifs at h with hzero hraises
    · obtain rfl := Option.some.inj h
      exact ⟨fun _ => acknowledgement_code.mp (hzero ▸ ha),fun h => nomatch h⟩
    · obtain rfl := Option.some.inj h
      exact ⟨fun h => (nomatch h),fun _ => ⟨errno,acknowledgement_code.mp ha,hzero⟩⟩
  | raised => simp [ha] at h
  | malformed | uncorrelated | echoesAnother | missing =>
    simp only [ha,Option.some.injEq] at h
    subst h
    exact ⟨fun h => (nomatch h),fun h => nomatch h⟩

theorem conclude_none : conclude request link sequence (.answered reply) = none ↔ ¬AcknowledgementReadable reply sequence := by
  rw [conclude]
  by_cases hr : ∃ message, Reports reply sequence message
  · obtain ⟨message,hr⟩ := hr
    have hreadable : AcknowledgementReadable reply sequence ↔ Readable message :=
      ⟨fun h => h message hr,fun h message' hr' => hr.unique hr' ▸ h⟩
    rw [hreadable,Readable,acknowledgement_reports hr]
    by_cases hlen : message.body.length < 4
    · have hshort : ¬4 ≤ message.body.length := by omega
      simp [hlen,hshort]
    · simp only [hlen,if_false]
      split_ifs <;> simp <;> omega
  · have hreadable : AcknowledgementReadable reply sequence := fun message h => absurd ⟨message,h⟩ hr
    obtain ⟨hraised,hcode⟩ := acknowledgement_unreported (not_exists.mp hr)
    cases ha : acknowledgement reply sequence with
    | code errno => exact absurd ha (hcode errno)
    | raised => exact absurd ha hraised
    | malformed | uncorrelated | echoesAnother | missing => simp [hreadable]

end Acknowledgement

section Operation

variable {counter : ℕ} {request : SetMtu} {query mutate : SocketRun}

theorem check_raised {reading : LinkReading} : check request reading = .raised ↔ precheck request = none ∧ reading = .raised := by
  unfold check
  cases precheck request with
  | some reason => simp
  | none =>
    cases reading with
    | raised => simp
    | refused reason => simp
    | facts link =>
      dsimp only
      split_ifs <;> simp

/-- The lookup of a request that passes the first checks is handled exactly where the check is. -/
theorem check_handled : check request (readLink request.ifindex (counter + 1) query) ≠ .raised ↔
    (precheck request = none → packs (counter + 1) ∧ (query.opens → query.closes) ∧
      ∀ reply, query.Answered reply → LookupReadable (yields reply.length reply).1) := by
  rw [ne_eq,check_raised,readLink_raised,not_and,not_not]

theorem exchange_concluded {delivery : Delivery} {link : LinkFacts} (h : mutate.exchange = some delivery) :
    conclude request link (counter + 2) delivery = none ↔
      ∃ reply, mutate.Answered reply ∧ ¬AcknowledgementReadable reply (counter + 2) := by
  have hanswered (reply : Bytes) : mutate.Answered reply ↔ delivery = .answered reply := by
    rw [← exchange_answered,h,Option.some.injEq]
  simp only [hanswered]
  cases delivery with
  | raised => exact absurd h exchange_not_raised
  | answered reply =>
    have hnone := @conclude_none reply (counter + 2) request link
    simpa using hnone
  | sendFailed reason => simp [conclude]
  | unanswered reason => simp [conclude]

/-- The write raises where its number does not fit, its socket does not close or its report cannot be read. -/
theorem write_raised {link : LinkFacts} :
    (if !packs (counter + 2) then none else mutate.exchange.bind (conclude request link (counter + 2))) = none ↔
      ¬(packs (counter + 2) ∧ (mutate.opens → mutate.closes) ∧
        ∀ reply, mutate.Answered reply → AcknowledgementReadable reply (counter + 2)) := by
  cases hpacks : packs (counter + 2) with
  | false => simp
  | true =>
    simp only [Bool.not_true,Bool.false_eq_true,if_false,true_and]
    cases hx : mutate.exchange with
    | none =>
      obtain ⟨hopens,hcloses⟩ := exchange_none.mp hx
      simp [hopens,hcloses]
    | some delivery =>
      have hcloses : mutate.opens → mutate.closes := fun hopens => by
        by_contra hne
        rw [exchange_none.mpr ⟨hopens,by simpa using hne⟩] at hx
        cases hx
      rw [and_iff_right hcloses,Option.bind_some,exchange_concluded hx]
      simp

/-- The operation reports in every case it can handle, and in no other. -/
theorem setMtu_isSome : (∃ result, setMtu counter request query mutate = some result) ↔ Tractable counter request query mutate := by
  rw [← Option.isSome_iff_exists,← Option.ne_none_iff_isSome,ne_eq,not_iff_comm]
  unfold setMtu Tractable
  cases hc : check request (readLink request.ifindex (counter + 1) query) with
  | raised => exact iff_of_true (fun h => check_handled.mpr h.1 hc) rfl
  | refused reason link =>
    have hlookup := check_handled.mp (by rw [hc]; exact fun h => nomatch h)
    exact iff_of_false (not_not_intro ⟨hlookup,fun link h => nomatch h⟩) (fun h => nomatch h)
  | passed link =>
    rw [and_iff_right (check_handled.mp (by rw [hc]; exact fun h => nomatch h))]
    simp only [Check.passed.injEq,forall_eq']
    exact write_raised.symm

/-- Only a frame that was not taken fails to be sent. -/
theorem exchange_accepts {delivery : Delivery} (h : mutate.exchange = some delivery) :
    mutate.accepts ↔ ∀ reason, delivery ≠ .sendFailed reason := by
  unfold SocketRun.exchange SocketRun.answer at h
  unfold SocketRun.accepts
  cases hopens : mutate.opens <;> cases hcloses : mutate.closes <;> cases hsends : mutate.sends <;>
    simp only [hopens,hcloses,hsends,Bool.not_true,Bool.not_false,Bool.false_eq_true,if_true,if_false,Option.some.injEq,
      reduceCtorEq] at h <;> subst h <;> simp
  cases mutate.arrival with
  | datagram payload sender => dsimp only; split_ifs <;> simp
  | _ => simp

/-- A report is a refusal of a frame that was not taken, or made of what came back for one that was. -/
theorem setMtu_cases {result : MutationResult} (h : setMtu counter request query mutate = some result) :
    (¬dispatches counter request query mutate ∧ result.outcome = .notWritten) ∨
      (dispatches counter request query mutate ∧ ((∀ reply, ¬mutate.Answered reply) ∧ result.outcome = .writeUnknown ∨
        ∃ reply link, mutate.Answered reply ∧ conclude request link (counter + 2) (.answered reply) = some result)) := by
  unfold setMtu at h
  unfold dispatches
  cases hc : check request (readLink request.ifindex (counter + 1) query) with
  | raised => simp [hc] at h
  | refused reason link =>
    simp only [hc,Option.some.injEq] at h
    subst h
    exact .inl ⟨fun hd => (nomatch hd.1),rfl⟩
  | passed link =>
    simp only [hc] at h
    split_ifs at h with hpacks
    obtain ⟨delivery,hx,hresult⟩ := Option.bind_eq_some_iff.mp h
    have haccepts := exchange_accepts hx
    have hpacks : packs (counter + 2) = true := by simpa using hpacks
    cases delivery with
    | raised => exact absurd hx exchange_not_raised
    | sendFailed reason =>
      obtain rfl := Option.some.inj hresult
      exact .inl ⟨fun hd => haccepts.mp hd.2.2 reason rfl,rfl⟩
    | unanswered reason =>
      obtain rfl := Option.some.inj hresult
      refine .inr ⟨⟨⟨link,rfl⟩,hpacks,haccepts.mpr fun _ h => nomatch h⟩,.inl ⟨fun reply hr => ?_,rfl⟩⟩
      rw [exchange_answered.mpr hr] at hx
      cases hx
    | answered reply =>
      exact .inr ⟨⟨⟨link,rfl⟩,hpacks,haccepts.mpr fun _ h => nomatch h⟩,.inr ⟨reply,link,exchange_answered.mp hx,hresult⟩⟩

theorem outcome_cases (outcome : MutationOutcome) : outcome = .notWritten ∨ outcome = .written ∨ outcome = .writeUnknown := by
  cases outcome <;> simp

/-- Every run is accounted for exactly where nothing in it is past what the operation can read, pack or close. -/
theorem accounted_iff (counter : ℕ) (request : SetMtu) (query mutate : SocketRun) :
    Accounted counter request query mutate ↔ Tractable counter request query mutate := by
  refine ⟨fun h => setMtu_isSome.mp h.total,fun h => ?_⟩
  obtain ⟨result,hresult⟩ := setMtu_isSome.mpr h
  refine ⟨⟨result,hresult⟩,fun r hr hw => ?_,fun r hr hn => ?_,fun hd hunanswered => ⟨result,hresult,?_⟩⟩
  · rcases setMtu_cases hr with ⟨-,ho⟩ | ⟨hd,⟨-,ho⟩ | ⟨reply,link,ha,hc⟩⟩
    · rw [hw] at ho
      cases ho
    · rw [hw] at ho
      cases ho
    · exact ⟨hd,reply,ha,(conclude_answered hc).1 hw⟩
  · rcases setMtu_cases hr with ⟨hd,-⟩ | ⟨-,⟨-,ho⟩ | ⟨reply,link,ha,hc⟩⟩
    · exact .inl hd
    · rw [hn] at ho
      cases ho
    · obtain ⟨errno,hack,hne⟩ := (conclude_answered hc).2 hn
      exact .inr ⟨reply,errno,ha,hack,hne⟩
  · rcases setMtu_cases hresult with ⟨hd',-⟩ | ⟨-,⟨-,ho⟩ | ⟨reply,link,ha,hc⟩⟩
    · exact absurd hd hd'
    · exact ho
    · obtain ⟨hwritten,hnotWritten⟩ := conclude_answered hc
      rcases outcome_cases result.outcome with ho | ho | ho
      · obtain ⟨errno,hack,-⟩ := hnotWritten ho
        exact absurd hack (hunanswered reply errno ha)
      · exact absurd (hwritten ho) (hunanswered reply 0 ha)
      · exact ho

/-- Interface 2 has the MTU 1500 and is to get 9000. -/
def toJumbo : SetMtu := ⟨"attempt-1",2,1500,9000,none⟩

def linkReply : Bytes :=
  [40,0,0,0, 16,0, 0,0, 1,0,0,0, 0,0,0,0] ++ [0,0, 0,0, 2,0,0,0, 0,0,0,0, 0,0,0,0] ++ [8,0, 4,0, 220,5,0,0]

def fromKernel (payload : Bytes) : SocketRun := ⟨true,true,.datagram payload (some 0),true⟩

/-- A report of the right sequence number, and two bytes where its error number should be. -/
def shortReport : Bytes := [18,0,0,0, 2,0, 0,0, 2,0,0,0, 0,0,0,0, 0,0]

theorem short_report_raises : ¬∀ (counter : ℕ) (request : SetMtu) (query mutate : SocketRun), request.valid →
    Accounted counter request query mutate := by
  intro h
  obtain ⟨result,hresult⟩ := (h 0 toJumbo (fromKernel linkReply) (fromKernel shortReport) (by decide +kernel)).total
  have hnone : setMtu 0 toJumbo (fromKernel linkReply) (fromKernel shortReport) = none := by decide +kernel
  rw [hnone] at hresult
  cases hresult

-- with all four bytes of it, the same report is a refusal
example : (setMtu 0 toJumbo (fromKernel linkReply) (fromKernel
    [20,0,0,0, 2,0, 0,0, 2,0,0,0, 0,0,0,0, 234,255,255,255])).map (·.kernelErrno) = some (some 22) := by decide +kernel

end Operation

end Helper
end LocalPlane
