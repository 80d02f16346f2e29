import LocalPlane.JournalContract
import LocalPlane.TextNumbers

/-!
# Reading a service's journal

The native journal hands out one entry after another, newest first, and of each entry the
fields it is asked for. The reader takes at most a bound of each field, checks whose entry it
is, and stops at the window, at the number of entries or at the size of the answer. Whatever
raises on the way is answered by a status.
-/

set_option linter.dupNamespace false

namespace LocalPlane
namespace ServiceJournal
open CivilTime

abbrev Bytes := List UInt8

/-- The codes that the library answers with, as far as they are told apart. -/
inductive Errno where
  | eacces | eperm | enosys | eprotonosupport | ebadmsg | einval | enoent | other
deriving DecidableEq,Repr

/-- The statuses that reading a journal fails with. -/
inductive Failure where
  | denied | unsupported | malformed | unavailable | identityChanged
deriving DecidableEq,Repr

def Failure.status : Failure → JournalStatus
  | .denied => .denied
  | .unsupported => .unsupported
  | .malformed => .malformed
  | .unavailable => .unavailable
  | .identityChanged => .identityChanged

inductive Raised where
  | journal (failure : Failure) (accessOmitted : Bool)
  | permission | os | value | other
deriving DecidableEq,Repr

def failed (failure : Failure) : Raised := .journal failure false

def Errno.failure : Errno → Failure
  | .eacces => .denied
  | .eperm => .denied
  | .enosys => .unsupported
  | .eprotonosupport => .unsupported
  | .ebadmsg => .malformed
  | .einval => .malformed
  | .enoent => .unavailable
  | .other => .unavailable

def checked {α : Type} : Except Errno α → Except Raised α
  | .ok a => .ok a
  | .error code => .error (failed code.failure)

inductive FieldName where
  | systemdUnit | bootId | priority | invocationId | message
deriving DecidableEq,Repr

/-- What a field's data object begins with. -/
def FieldName.start : FieldName → Bytes
  | .systemdUnit => Utf8.encode "_SYSTEMD_UNIT=".toList
  | .bootId => Utf8.encode "_BOOT_ID=".toList
  | .priority => Utf8.encode "PRIORITY=".toList
  | .invocationId => Utf8.encode "_SYSTEMD_INVOCATION_ID=".toList
  | .message => Utf8.encode "MESSAGE=".toList

/-- Why an entry has no timestamp: the library's code, or a time that is no date. -/
inductive Undated where
  | native (code : Errno)
  | range
deriving DecidableEq,Repr

def Undated.raised : Undated → Raised
  | .native code => failed code.failure
  | .range => .value

/-- One entry as the library hands it out. -/
structure Record where
  time : Except Undated CivilTime.Instant
  data : FieldName → Except Errno Bytes

def Record.timestamp (r : Record) : Except Raised CivilTime.Instant := r.time.mapError Undated.raised

def Record.field (r : Record) (name : FieldName) (limit : ℕ) (optional : Bool) : Except Raised (Option Bytes × Bool) :=
  match r.data name with
  | .error code => if optional ∧ code = .enoent then .ok (none,false) else .error (failed code.failure)
  | .ok object =>
    if object.length < name.start.length then .error (failed .malformed)
    else
      let raw := object.take (name.start.length + limit)
      if name.start.isPrefixOf raw then .ok (some (raw.drop name.start.length),name.start.length + limit < object.length)
      else .error (failed .malformed)

/-- What the library does from the selection on, and what it answers when there are no more entries. -/
structure Journal where
  select : Except Errno Unit
  records : List Record
  ending : Except Errno Unit
  newestFirst : records.Pairwise fun r r' => ∀ t t', r.time = .ok t → r'.time = .ok t' → t'.micros ≤ t.micros

section Entries

variable (unit boot : Text)

/-- Both are ASCII, where UTF-8 is the same. -/
def identify (r : Record) : Except Raised Unit := do
  let (actualUnit,unitCut) ← r.field .systemdUnit 255 false
  let (actualBoot,bootCut) ← r.field .bootId 32 false
  if unitCut ∨ bootCut ∨ actualUnit ≠ some (Utf8.encode unit) ∨ actualBoot ≠ some (Utf8.encode boot) then
    throw (failed .identityChanged)

def decodeAscii (bytes : Bytes) : Except Raised Text :=
  if bytes.all (·.toNat < 128) then .ok (bytes.map fun b => Char.ofNat b.toNat) else .error .value

/-- `decode()` of the one digit that a priority is, where there is one. -/
def takePriority : Option Bytes × Bool → Except Raised (Option Text)
  | (none,cut) => if cut then throw (failed .malformed) else pure none
  | (some bytes,cut) =>
    if cut ∨ bytes ∉ priorities.map Utf8.encode then throw (failed .malformed) else pure (some (Utf8.decodeReplace bytes))

def takeInvocation : Option Bytes × Bool → Except Raised (Option Text)
  | (none,cut) => if cut then throw (failed .malformed) else pure none
  | (some bytes,cut) =>
    if cut then throw (failed .malformed)
    else do
      let text ← decodeAscii bytes
      if id128 text then pure (some text) else throw (failed .malformed)

/-- What is displayed of a message, and whether anything of it is cut. -/
def displayed : Option Bytes × Bool → Option Text × Bool
  | (none,cut) => (none,cut)
  | (some bytes,cut) =>
    let text := Utf8.encode (Utf8.decodeReplace bytes)
    (some (Utf8.decodeIgnore (text.take messageBytes)),cut || messageBytes < text.length)

def readEntry (timestamp : CivilTime.Instant) (r : Record) : Except Raised (Entry × Bool) := do
  let priority ← r.field .priority 1 true
  let invocation ← r.field .invocationId 32 true
  let priority ← takePriority priority
  let invocation ← takeInvocation invocation
  let (message,cut) := displayed (← r.field .message messageBytes true)
  pure (⟨isoformat timestamp,priority,message,boot,invocation⟩,cut)

/-- The answer with one entry more. -/
def Answer.add (a : Answer) (e : Entry × Bool) : Answer :=
  { a with entries := a.entries ++ [e.1], status := .ok, truncated := a.truncated || e.2 }

/-- The loop over the entries. -/
def readEntries (since : ℤ) (now : CivilTime.Instant) (ending : Except Errno Unit) : List Record → Answer → Except Raised Answer
  | [],a => do
    checked ending
    pure a
  | r :: records,a => do
    let timestamp ← r.timestamp
    if timestamp.micros < since then pure a
    else if now.micros < timestamp.micros then throw (failed .malformed)
    else do
      identify unit boot r
      if a.entries.length = maxEntries then pure { a with truncated := true }
      else do
        let e ← readEntry boot timestamp r
        if outputBytes - 1 < (encode (a.add e).toJson).length then
          pure { a.add e with entries := a.entries, truncated := true }
        else readEntries since now ending records (a.add e)

/-- The answer that the loop begins with. -/
def opening (now : Reading) (accessOmitted : Bool) : Answer :=
  { response .empty (some unit) now (if accessOmitted then .partly else .complete) with bootId := some boot }

def collectEntries (journal : Journal) (now : Reading) (accessOmitted : Bool) : Except Raised Answer :=
  match fromisoformat (opening unit boot now accessOmitted).since with
  | none => .error .value
  | some since => do
    checked journal.select
    let answer ← readEntries unit boot since.instant now.instant journal.ending journal.records (opening unit boot now accessOmitted)
    if answer.entries.isEmpty ∧ accessOmitted then pure (response .denied (some unit) now .partly) else pure answer

end Entries

section Collect

/-- What asking the manager for the unit's identity raises. -/
inductive IdentityRaised where
  | absent
  | dbus (authorization : Bool)
  | permission | timeout | other
deriving DecidableEq,Repr

inductive IdentityStatus where
  | ok | unsupported | identityChanged | denied | timeout | unavailable
deriving DecidableEq,Repr

def IdentityStatus.status : IdentityStatus → JournalStatus
  | .ok => .ok
  | .unsupported => .unsupported
  | .identityChanged => .identityChanged
  | .denied => .denied
  | .timeout => .timeout
  | .unavailable => .unavailable

structure Manager where
  runtimePresent : Except Raised Bool
  canonical : Except IdentityRaised Text

def journalIdentity (m : Manager) (unit : Text) : Except Raised IdentityStatus :=
  if !validService unit then .ok .unsupported
  else do
    if !(← m.runtimePresent) then pure .unsupported
    else match m.canonical with
      | .ok canonical => pure (if canonical = unit then .ok else .identityChanged)
      | .error .absent => pure .identityChanged
      | .error (.dbus authorization) => pure (if authorization then .denied else .unavailable)
      | .error .permission => pure .denied
      | .error .timeout => pure .timeout
      | .error .other => pure .unavailable

/-- The kernel's identifier of the boot, from what its file reads. -/
def bootId (file : Except Raised Text) : Except Raised Text := do
  let text ← file
  let value := (TextNumbers.strip text).filter (· ≠ '-')
  if id128 value then pure value else throw (failed .unavailable)

/-- What the selected files make of what is raised while they are open. -/
def withFiles {α : Type} (accessOmitted : Bool) : Except Raised α → Except Raised α
  | .error (.journal failure omitted) => .error (.journal failure (omitted || accessOmitted))
  | .error .permission => .error (.journal .unavailable accessOmitted)
  | .error .os => .error (.journal .unavailable accessOmitted)
  | result => result

/-- What the collection meets: the manager and the boot file are asked before and after. -/
structure World where
  before : Manager
  boot : Except Raised Text
  now : Reading
  files : Except Raised Bool
  native : Except Raised Journal
  after : Manager
  bootAfter : Except Raised Text
  later : Reading

/-- Up to the exceptions, with whether access was known to be omitted by then. -/
def attempt (w : World) (unit : Text) : Bool × Except Raised Answer :=
  match journalIdentity w.before unit with
  | .error e => (false,.error e)
  | .ok status =>
    if status ≠ .ok then (false,.ok (response status.status (some unit) w.later .unknown))
    else match bootId w.boot with
      | .error e => (false,.error e)
      | .ok boot =>
        match w.files with
        | .error e => (false,.error e)
        | .ok accessOmitted => (accessOmitted,do
          let answer ← withFiles accessOmitted do
            let journal ← w.native
            collectEntries unit boot journal w.now accessOmitted
          if (← journalIdentity w.after unit) ≠ .ok then pure (response .identityChanged (some unit) w.later .unknown)
          else if (← bootId w.bootAfter) ≠ boot then pure (response .identityChanged (some unit) w.later .unknown)
          else pure answer)

def covered (accessOmitted : Bool) : Coverage := if accessOmitted then .partly else .unknown

def collect (w : World) (unit : Text) : Answer :=
  if !validService unit then response .unsupported none w.later .unknown
  else
    let (accessOmitted,result) := attempt w unit
    match result with
    | .ok answer => answer
    | .error (.journal failure omitted) => response failure.status (some unit) w.later (covered (accessOmitted || omitted))
    | .error .permission => response .denied (some unit) w.later (covered accessOmitted)
    | .error .value => response .malformed (some unit) w.later (covered accessOmitted)
    | .error .os => response .unavailable (some unit) w.later (covered accessOmitted)
    | .error .other => response .unavailable (some unit) w.later (covered accessOmitted)

end Collect

end ServiceJournal
end LocalPlane
