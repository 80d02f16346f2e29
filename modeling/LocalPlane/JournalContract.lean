import LocalPlane.CivilTime
import LocalPlane.JsonText
import LocalPlane.Texts

/-!
# What a journal answer may be

A service's journal is answered in a closed vocabulary: one status, the window and the
entries in it, what was covered and why it may not be all. The answer is made on one side of
a process boundary and checked on the other.
-/

set_option linter.dupNamespace false

namespace LocalPlane
namespace ServiceJournal
open LineProtocol (Json Fields)
open CivilTime

def maxEntries : ℕ := 100
def outputBytes : ℕ := 256 * 1024
def messageBytes : ℕ := 4096
/-- `WINDOW_SECONDS`, in microseconds. -/
def window : ℕ := 15 * 60 * 1000000

inductive JournalStatus where
  | ok | empty | denied | unavailable | unsupported | timeout | busy | identityChanged | malformed
deriving DecidableEq,Repr

def JournalStatus.text : JournalStatus → String
  | .ok => "ok"
  | .empty => "empty"
  | .denied => "denied"
  | .unavailable => "unavailable"
  | .unsupported => "unsupported"
  | .timeout => "timeout"
  | .busy => "busy"
  | .identityChanged => "identity_changed"
  | .malformed => "malformed"

def JournalStatus.all : List JournalStatus :=
  [.ok,.empty,.denied,.unavailable,.unsupported,.timeout,.busy,.identityChanged,.malformed]

inductive Coverage where
  | complete | partly | unknown
deriving DecidableEq,Repr

def Coverage.text : Coverage → String
  | .complete => "complete"
  | .partly => "partial"
  | .unknown => "unknown"

def scopeGaps : List String :=
  ["Exact trusted unit field only; some manager messages are omitted. Default system journal namespace only.",
   "Correlation is not causality or proof of a frozen service invocation.",
   "Coverage describes the bounded file selection, not all history or a frozen snapshot."]

def accessGap : String :=
  "Some default-namespace journal files or directories are inaccessible to the agent's existing OS identity; coverage is partial."

/-- `REASONS` -/
def JournalStatus.reason : JournalStatus → Option String
  | .ok => none
  | .empty => none
  | .denied => some "The agent's existing OS identity cannot read this evidence."
  | .unavailable => some "Journal evidence is unavailable; no complete read was established."
  | .unsupported => some "The required system journal mechanism is unsupported."
  | .timeout => some "The three-second collection deadline expired; cleanup retains the slot until exit."
  | .busy => some "A previous collection has not completed or been reaped; no replacement was started."
  | .identityChanged => some "Canonical unit, host or boot identity could not be confirmed unchanged."
  | .malformed => some "Journal evidence did not satisfy the closed response contract."

def gapsOf (status : JournalStatus) (coverage : Coverage) : List String :=
  scopeGaps ++ (if coverage = .partly then [accessGap] else []) ++ status.reason.toList

def lowerHex (c : Char) : Bool := (48 ≤ c.toNat && c.toNat ≤ 57) || (97 ≤ c.toNat && c.toNat ≤ 102)

/-- `ID128` -/
def id128 (text : Text) : Bool := text.length = 32 && text.all lowerHex

def hex (c : Char) : Bool := lowerHex c || (65 ≤ c.toNat && c.toNat ≤ 70)

def literal (c : Char) : Bool := c.isAlphanum || c ∈ ['_',':','.','@','-']

/-- Literal characters and bytes spelled in hexadecimal. -/
def escaped : Text → Bool
  | [] => true
  | '\\' :: 'x' :: a :: b :: text => hex a && hex b && escaped text
  | c :: text => literal c && escaped text

/-- `SERVICE` -/
def service (text : Text) : Bool :=
  ".service".toList.isSuffixOf text && 8 < text.length && escaped (text.take (text.length - 8))

def validService (value : Text) : Bool :=
  !"user@".toList.isPrefixOf value && Utf8.size value ≤ 255 && service value

structure Entry where
  timestamp : Text
  priority : Option Text
  message : Option Text
  bootId : Text
  invocationId : Option Text
deriving DecidableEq,Repr

structure Answer where
  canonicalId : Option Text
  status : JournalStatus
  retrievedAt : Text
  since : Text
  bootId : Option Text := none
  truncated : Bool := false
  entries : List Entry := []
  coverage : Coverage
  gaps : List String
deriving DecidableEq,Repr

/-- What a clock reads, with the instant a window before it. -/
structure Reading where
  instant : CivilTime.Instant
  since : CivilTime.Instant
  span : since.micros + window = instant.micros

def response (status : JournalStatus) (canonicalId : Option Text) (now : Reading) (coverage : Coverage) : Answer where
  canonicalId := canonicalId
  status := status
  retrievedAt := isoformat now.instant
  since := isoformat now.since
  coverage := coverage
  gaps := gapsOf status coverage

def spelled (text : Text) : Json := .str (String.ofList text)

def spelled? : Option Text → Json
  | none => .null
  | some text => spelled text

def Entry.toJson (e : Entry) : Json := .obj
  [("timestamp",spelled e.timestamp),("priority",spelled? e.priority),("message",spelled? e.message),
   ("boot_id",spelled e.bootId),("invocation_id",spelled? e.invocationId)]

def Answer.toJson (a : Answer) : Json := .obj
  [("canonical_id",spelled? a.canonicalId),("status",.str a.status.text),("retrieved_at",spelled a.retrievedAt),
   ("since",spelled a.since),("boot_id",spelled? a.bootId),("truncated",.bool a.truncated),
   ("entries",.arr (a.entries.map Entry.toJson)),("coverage",.str a.coverage.text),("gaps",.arr (a.gaps.map .str))]

/-- `encode`; the text is ASCII. -/
def encode (value : Json) : Text := JsonText.dumps value

section Validate

def answerKeys : List String :=
  ["canonical_id","status","retrieved_at","since","boot_id","truncated","entries","coverage","gaps"]

def entryKeys : List String := ["timestamp","priority","message","boot_id","invocation_id"]

def sameKeys (fields : Fields) (keys : List String) : Bool :=
  fields.all (fun f => f.1 ∈ keys) && keys.all fun key => fields.any (·.1 = key)

def get (fields : Fields) (key : String) : Json := (fields.lookup key).getD .null

/-- Nothing where reading the instant raises. -/
def instantOf : Json → Option Datetime
  | .str text => fromisoformat text.toList
  | _ => none

def nullOr (p : Text → Bool) : Json → Bool
  | .null => true
  | .str text => p text.toList
  | _ => false

def priorities : List Text := [['0'],['1'],['2'],['3'],['4'],['5'],['6'],['7']]

def validEntry (boot : Json) (since retrieved : Datetime) : Json → Bool
  | .obj e =>
    sameKeys e entryKeys && decide (get e "boot_id" = boot) && nullOr (· ∈ priorities) (get e "priority") &&
      nullOr id128 (get e "invocation_id") && nullOr (Utf8.size · ≤ messageBytes) (get e "message") &&
      match instantOf (get e "timestamp") with
      | some timestamp => timestamp.zoned && since.instant ≤ timestamp.instant && timestamp.instant ≤ retrieved.instant
      | none => false
  | _ => false

/-- What the status demands of the rest. -/
def coherent (status : String) (canonicalId : Text) (f : Fields) (truncated : Bool) (entries : List Json) : Bool :=
  if status = "ok" ∨ status = "empty" then
    decide (get f "coverage" ≠ .str "unknown") && (status ≠ "empty" || decide (get f "coverage" = .str "complete")) &&
      decide (get f "boot_id" ≠ .null) && decide (get f "canonical_id" = spelled canonicalId) &&
      (decide (status = "ok") == !entries.isEmpty)
  else entries.isEmpty && !truncated && decide (get f "coverage" ≠ .str "complete")

def coverages : List Json := [.str "complete",.str "partial",.str "unknown"]

def allowedGaps : List Json := (scopeGaps ++ [accessGap] ++ JournalStatus.all.filterMap JournalStatus.reason).map .str

/-- Whether the answer is accepted; otherwise the check raises. -/
def validate (value : Json) (canonicalId : Text) : Bool :=
  match value with
  | .obj f =>
    sameKeys f answerKeys && decide ((encode value).length ≤ outputBytes) &&
      decide (get f "status" ∈ JournalStatus.all.map fun status => Json.str status.text) &&
      nullOr (· = canonicalId) (get f "canonical_id") &&
      match get f "status",get f "truncated",get f "entries",get f "gaps",instantOf (get f "retrieved_at"),instantOf (get f "since") with
      | .str status,.bool truncated,.arr entries,.arr gaps,some retrieved,some since =>
        decide (entries.length ≤ maxEntries) && decide (get f "coverage" ∈ coverages) && gaps.all (fun gap => decide (gap ∈ allowedGaps)) &&
          (decide (get f "coverage" = .str "partial") == decide (.str accessGap ∈ gaps)) &&
          retrieved.zoned && since.zoned && decide (retrieved.instant - since.instant = window) &&
          nullOr id128 (get f "boot_id") && coherent status canonicalId f truncated entries &&
          entries.all (validEntry (get f "boot_id") since retrieved)
      | _,_,_,_,_,_ => false
  | _ => false

end Validate

end ServiceJournal
end LocalPlane
