import Mathlib.Data.Nat.Notation
import Mathlib.Data.List.Basic

/-!
# Netlink answers

Datagrams are split into messages, and an acknowledgement is believed only when it carries
the sequence number of the request and echoes no other request.
-/

set_option linter.dupNamespace false

namespace LocalPlane
namespace Netlink

abbrev Bytes := List UInt8

def nlmsgError : ℕ := 2
def nlmsgDone : ℕ := 3
def rtmNewlink : ℕ := 16
def headerSize : ℕ := 16

theorem headerSize_pos : 0 < headerSize := by decide
theorem alignment_pos : 0 < 4 := by decide

/-- A little-endian unsigned integer of some width, where the datagram holds one. -/
def unsigned (width : ℕ) (payload : Bytes) (offset : ℕ) : ℕ :=
  ((payload.drop offset).take width).foldr (fun byte value => byte.toNat + 256 * value) 0

def signed32 (payload : Bytes) (offset : ℕ) : Int :=
  let value := unsigned 4 payload offset
  if value < 0x80000000 then value else (value : Int) - 0x100000000

/-- The address families that occur, and how long their packed addresses are. -/
inductive AddressFamily where
  | inet | inet6
  deriving DecidableEq

def AddressFamily.number : AddressFamily → ℕ
  | .inet => 2
  | .inet6 => 10

def AddressFamily.width : AddressFamily → ℕ
  | .inet => 4
  | .inet6 => 16

structure Message where
  kind : ℕ
  sequence : ℕ
  body : Bytes
  deriving DecidableEq

/-- Split a datagram, or fail on a message that is shorter than its header or longer than what is
left. What follows the end marker is not read. Every message takes up a header at least, so the
datagram's own length bounds their number. -/
def split : ℕ → Bytes → Option (List Message)
  | 0,_ => some []
  | bound+1,reply =>
    if reply.length < headerSize then some []
    else
      let length := unsigned 4 reply 0
      if length < headerSize ∨ reply.length < length then none
      else if unsigned 2 reply 4 = nlmsgDone then some []
      else (split bound (reply.drop ((length + 3) / 4 * 4))).map fun rest =>
        ⟨unsigned 2 reply 4,unsigned 4 reply 8,(reply.take length).drop headerSize⟩ :: rest

def messages (reply : Bytes) : Option (List Message) := split reply.length reply

/-- A larger bound splits no further: the datagram runs out first. -/
theorem split_bound (m n : ℕ) (reply : Bytes) (hm : reply.length ≤ m) (hn : m ≤ n) : split n reply = split m reply := by
  induction m generalizing n reply with
  | zero =>
    have hr : reply = [] := List.length_eq_zero_iff.mp (Nat.le_zero.mp hm)
    subst hr
    cases n <;> simp [split,headerSize]
  | succ m ih =>
    cases n with
    | zero => omega
    | succ n =>
      unfold split
      split
      · rfl
      · dsimp only
        split
        · rfl
        · next hlen hsize =>
          split
          · rfl
          · rw [ih n _ (by simp only [List.length_drop,headerSize] at *; omega) (by omega)]

/-- The header an acknowledgement echoes back, when it carries one. -/
def echoedRequest (body : Bytes) : Option (ℕ × ℕ) :=
  if body.length < 4 + headerSize then none else some (unsigned 2 body 8,unsigned 4 body 12)

inductive Acknowledgement where
  | malformed | uncorrelated | echoesAnother | missing
  | raised
  | code (errno : Int)
  deriving DecidableEq

/-- The kernel's errno for this request, or why it cannot be told. -/
def acknowledgement (reply : Bytes) (sequence : ℕ) : Acknowledgement :=
  match messages reply with
  | none => .malformed
  | some found =>
    match found.find? (·.kind = nlmsgError) with
    | none => .missing
    | some message =>
      if message.sequence ≠ sequence then .uncorrelated
      else if (echoedRequest message.body).any (· ≠ (rtmNewlink,sequence)) then .echoesAnother
      else if message.body.length < 4 then .raised
      else .code (-(signed32 message.body 0))

/-- What the kernel decided about one frame: accepted, or refused with an error number. -/
inductive Verdict where
  | accepted
  | rejected (errno : ℕ) (positive : 0 < errno)

def Verdict.errno : Verdict → Int
  | .accepted => 0
  | .rejected errno _ => errno

/-- A datagram the kernel itself sends: what it acknowledges of a request is what it decided. -/
def Genuine (reply : Bytes) (sequence : ℕ) (verdict : Verdict) : Prop :=
  match messages reply with
  | none => True
  | some found => ∀ message ∈ found, message.kind = nlmsgError → message.sequence = sequence →
    4 ≤ message.body.length → signed32 message.body 0 = -verdict.errno

instance (reply : Bytes) (sequence : ℕ) (verdict : Verdict) : Decidable (Genuine reply sequence verdict) :=
  match h : messages reply with
  | none => .isTrue (by unfold Genuine; rw [h]; trivial)
  | some found => decidable_of_iff (∀ message ∈ found, message.kind = nlmsgError → message.sequence = sequence →
      4 ≤ message.body.length → signed32 message.body 0 = -verdict.errno) (by unfold Genuine; rw [h])

/-- An acknowledgement that is believed tells what the kernel decided. -/
theorem acknowledgement_genuine {reply : Bytes} {sequence : ℕ} {verdict : Verdict} {errno : Int}
    (hg : Genuine reply sequence verdict) (h : acknowledgement reply sequence = .code errno) : errno = verdict.errno := by
  unfold acknowledgement at h
  split at h
  · cases h
  · next found hfound =>
    split at h
    · cases h
    · next message hm =>
      split at h
      · cases h
      · next hseq =>
        split at h
        · cases h
        · split at h
          · cases h
          · next hlen =>
            cases h
            have hkind : message.kind = nlmsgError := by simpa using List.find?_some hm
            unfold Genuine at hg
            rw [hfound] at hg
            have hcode := hg message (List.mem_of_find?_eq_some hm) hkind (not_not.mp hseq) (by omega)
            rw [hcode,Int.neg_neg]

end Netlink
end LocalPlane
