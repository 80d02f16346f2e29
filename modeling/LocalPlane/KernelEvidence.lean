import LocalPlane.MountInfo
import LocalPlane.Recorded

/-!
# Observing mounted filesystems

The storage worker reads the mount table once and samples each supported mount through a
pinned descriptor, compares namespace and table again after every sample and at the end,
and withdraws everything where they differ. Every call may raise, and the kernel may answer
each one differently.
-/

set_option linter.dupNamespace false

namespace LocalPlane
namespace Storage
open MountInfo TextNumbers

/-- The exceptions that the calls and the checks on their answers raise. -/
inductive Raised where
  | os | permission | value
  | evidence (reason : String)
deriving DecidableEq,Repr

structure Stat where
  symlink : Bool
  major : ℕ
  minor : ℕ
deriving DecidableEq,Repr

/-- `os.statvfs_result` -/
structure Statistics where
  blocks : ℤ
  bfree : ℤ
  bavail : ℤ
  frsize : ℤ
  files : ℤ
  ffree : ℤ
  favail : ℤ
deriving DecidableEq,Repr

inductive Call where
  | readNamespace
  | readTable
  | readFdinfo (fd : ℤ)
  | fstat (fd : ℤ)
  | openRoot
  | openAt (fd : ℤ) (name : Text)
  | reopen (fd : ℤ)
  | close (fd : ℤ)
  | readlink (fd : ℤ) (name : Text)
  | read (fd : ℤ)
  | fstatvfs (fd : ℤ)
  | work
deriving DecidableEq,Repr

abbrev Call.Answer : Call → Type
  | .readNamespace => Text
  | .readTable => Bytes
  | .readFdinfo _ => Bytes
  | .fstat _ => Stat
  | .openRoot => ℤ
  | .openAt _ _ => ℤ
  | .reopen _ => ℤ
  | .close _ => Unit
  | .readlink _ _ => Text
  | .read _ => Bytes
  | .fstatvfs _ => Statistics
  | .work => Unit

/-- The calls, any of which may raise. -/
abbrev Kernel : Signature := (Signature.mk Call Call.Answer).faulty Raised

abbrev Event : Type := Exchange Kernel

def ask (op : Call) : Program Kernel Raised op.Answer := Program.call (S := ⟨Call,Call.Answer⟩) op

def ext4 : Text := "ext4".toList
def xfs : Text := "xfs".toList
def btrfs : Text := "btrfs".toList
def sysfs : Text := "sysfs".toList

/-- `SUPPORTED` -/
def supported : List Text := [ext4,xfs]

def maxMounts : ℕ := 128

/-- `EvidenceError()` -/
def unmatched : Raised := .evidence malformed

def unverified : String := "Mount namespace identity could not be verified."
def exceededBound : String := "Kernel metadata exceeded its byte bound."
def changedDuring : String := "Mount table changed during descriptor validation."
def absentMount : String := "Pinned mount ID is absent from the current mount table."
def unsupportedAncestor : String := "Unsupported filesystem ancestor or target; path traversal stopped."
def symlinkComponent : String := "Symlink path component excluded; path traversal stopped."
def deviceMismatch : String := "Pinned device does not match the authoritative mount tuple."
def hiddenMount : String := "Mount is hidden, stacked or changed; pinned tuple does not match."
def changedCollecting : String := "Namespace or mount table changed during collection."

def boundedBytes (limit : ℕ) (data : Bytes) : Except Raised Bytes :=
  if limit < data.length then .error (.evidence exceededBound) else .ok data

/-- The table that the bytes read say. -/
def tableOf (data : Bytes) : Except Raised (List Mount) :=
  (boundedBytes metadataBytes data).bind fun data =>
  match parseMountinfo data with
  | .ok mounts => .ok mounts
  | .error (.evidence reason) => .error (.evidence reason)
  | .error .unicode => .error .value

def table : Program Kernel Raised (List Mount) := do
  let data ← ask .readTable
  .ret (tableOf data)

/-- `mnt:\[[0-9]+\]` -/
def namespaceShape (value : Text) : Bool :=
  let number := (value.drop 5).dropLast
  value.take 5 = "mnt:[".toList && 6 ≤ value.length && value.getLast? = some ']' && !number.isEmpty && number.all decimalDigit

def readNamespace : Program Kernel Raised Text := do
  let value ← ask .readNamespace
  .ret (if namespaceShape value then .ok value else .error (.evidence unverified))

/-- `decode("ascii")` -/
def ascii (data : Bytes) : Option Text := if data.all (· < 128) then some (data.map fun b => Char.ofNat b.toNat) else none

/-- `mnt_id:\s*([0-9]+)$` at the start of a line -/
def mountIdHere (text : Text) : Option Text :=
  let name := "mnt_id:".toList
  let rest := (text.drop name.length).dropWhile blank
  let number := rest.takeWhile decimalDigit
  let after := rest.dropWhile decimalDigit
  if text.take name.length = name ∧ number ≠ [] ∧ (after = [] ∨ after.head? = some '\n') then some number else none

/-- `re.findall(r"^mnt_id:\s*([0-9]+)$", data, re.MULTILINE)` -/
def mountIds : Bool → Text → List Text
  | _,[] => []
  | lineStart,c :: rest => (if lineStart then (mountIdHere (c :: rest)).toList else []) ++ mountIds (c = '\n') rest

/-- The mount id that the bytes read say. -/
def mountIdOf (data : Bytes) : Except Raised ℤ :=
  (boundedBytes 4096 data).bind fun data =>
  match ascii data with
  | none => .error .value
  | some text =>
    match mountIds true text with
    | [number] =>
      match int number with
      | some n => .ok n
      | none => .error .value
    | _ => .error unmatched

def mountId (fd : ℤ) : Program Kernel Raised ℤ := do
  let data ← ask (.readFdinfo fd)
  .ret (mountIdOf data)

/-- `f"{os.major(info.st_dev)}:{os.minor(info.st_dev)}"` -/
def Stat.device (info : Stat) : Text := decimal info.major ++ ':' :: decimal info.minor

def validate (fd : ℤ) (original : List Mount) (allowed : List Text) : Program Kernel Raised Mount := do
  let mid ← mountId fd
  let current ← table
  if current ≠ original then throw (.evidence changedDuring)
  else match current.find? fun m => m.mountId = mid with
    | none => throw (.evidence absentMount)
    | some m =>
      if m.filesystem ∉ allowed then throw (.evidence unsupportedAncestor)
      else do
        let info ← ask (.fstat fd)
        if info.symlink then throw (.evidence symlinkComponent)
        else if info.device ≠ m.device then throw (.evidence deviceMismatch)
        else pure m

/-- `except BaseException: os.close(fd); raise` -/
def releasing {α : Type} (fd : ℤ) (p : Program Kernel Raised α) : Program Kernel Raised α :=
  tryCatch p fun e => do
    ask (.close fd)
    throw e

/-- `finally: os.close(fd)` -/
def closing {α : Type} (fd : ℤ) (p : Program Kernel Raised α) : Program Kernel Raised α := do
  let value ← releasing fd p
  ask (.close fd)
  pure value

def descend (original : List Mount) (allowed : List Text) : ℤ → List Text → Program Kernel Raised ℤ
  | fd,[] => pure fd
  | fd,component :: rest =>
    if component = [] then descend original allowed fd rest
    else do
      let new ← releasing fd do
        let new ← ask (.openAt fd component)
        ask (.close fd)
        pure new
      let _ ← releasing new (validate new original allowed)
      descend original allowed new rest

def dots (component : Text) : Bool := component = ['.'] || component = ['.','.']

def pin (path : Text) (original : List Mount) (allowed : List Text) : Program Kernel Raised ℤ :=
  let components := (path.splitOn '/').drop 1
  if 64 < components.length ∨ components.any dots then throw unmatched
  else do
    let fd ← ask .openRoot
    let _ ← releasing fd (validate fd original allowed)
    descend original allowed fd components

def sample (mount : Mount) (original : List Mount) : Program Kernel Raised Statistics := do
  let fd ← pin mount.path original supported
  closing fd do
    let before ← validate fd original supported
    if before ≠ mount then throw (.evidence hiddenMount)
    else do
      let value ← ask (.fstatvfs fd)
      let after ← validate fd original supported
      if after ≠ mount then throw unmatched else pure value

/-- A descriptor within the kernel's own filesystem. -/
def onSysfs (fd : ℤ) (original : List Mount) : Program Kernel Raised Unit := do
  let m ← validate fd original (supported ++ [sysfs])
  if m.filesystem ≠ sysfs then throw unmatched else pure ()

def devices : Text := "../../devices/".toList

/-- `[a-zA-Z0-9_.!+-]{1,128}` -/
def backingName (name : Text) : Bool :=
  1 ≤ name.length && name.length ≤ 128 && name.all fun c => filesystemChar c || c = '!' || c = '+'

def deviceNumber (original : List Mount) (deviceFd : ℤ) : Program Kernel Raised Text := do
  let numberFd ← ask (.openAt deviceFd "dev".toList)
  closing numberFd do
    onSysfs numberFd original
    let readFd ← ask (.reopen numberFd)
    closing readFd do
      onSysfs readFd original
      let data ← ask (.read readFd)
      match ascii data with
      | none => throw .value
      | some text => pure (strip text)

def backing (mount : Mount) (original : List Mount) : Program Kernel Raised Text := do
  let allowed := supported ++ [sysfs]
  let fd ← pin "/sys/dev/block".toList original allowed
  closing fd do
    onSysfs fd original
    let target ← ask (.readlink fd mount.device)
    let parts := (target.drop devices.length).splitOn '/'
    if target.take devices.length ≠ devices then throw unmatched
    else if parts.any fun part => part = [] || dots part then throw unmatched
    else do
      let deviceFd ← pin ("/sys/devices/".toList ++ ['/'].intercalate parts) original allowed
      closing deviceFd do
        onSysfs deviceFd original
        let number ← deviceNumber original deviceFd
        if number ≠ mount.device then throw unmatched
        else do
          let current ← table
          if current ≠ original then throw unmatched
          else
            let name := parts.getLastD []
            if backingName name then pure name else throw unmatched

structure StorageCounters where
  total : Text
  used : Text
  free : Text
  available : Text
  reserved : Text
deriving DecidableEq,Repr

/-- `str` of an integer -/
def str (n : ℤ) : Text := if n < 0 then '-' :: decimal (-n).toNat else decimal n.toNat

def counters (total free available unit : ℤ) : Option StorageCounters :=
  if [total,free,available,unit].any fun v => v < 0 || 2 ^ 64 - 1 ≤ v then none
  else if unit = 0 ∨ ¬(0 ≤ available ∧ available ≤ free ∧ free ≤ total) then none
  else some ⟨str (total * unit),str ((total - free) * unit),str (free * unit),str (available * unit),str ((free - available) * unit)⟩

inductive MountStatus where
  | observed | unsupported | unavailable | changed
deriving DecidableEq,Repr

structure StorageMount where
  mountId : ℤ
  parentId : ℤ
  mountpoint : Text
  root : Text
  filesystem : Text
  device : Text
  readOnly : Bool
  status : MountStatus := .unsupported
  reason : String := "Only ext4 and xfs statistics are sampled."
  bytes : Option StorageCounters := none
  inodes : Option StorageCounters := none
  inodeReason : String := "Not sampled."
  backingName : Option Text := none
  backingReason : String := "Block-device backing is unresolved."
deriving DecidableEq,Repr

def listed (mount : Mount) : StorageMount where
  mountId := mount.mountId
  parentId := mount.parentId
  mountpoint := mount.path
  root := mount.root
  filesystem := mount.filesystem
  device := mount.device
  readOnly := mount.readOnly

/-- The row of a mount that is not sampled. -/
def passedOver (mount : Mount) : StorageMount :=
  if mount.filesystem = btrfs then
    { listed mount with backingReason := "Btrfs may span devices; backing topology was not enumerated." }
  else listed mount

inductive Status where
  | complete | partly | unavailable | busy
deriving DecidableEq,Repr

structure StorageObservation where
  status : Status
  reason : String
  namespaceId : Option Text := none
  mounts : List StorageMount := []
deriving DecidableEq,Repr

def Raised.reason (denied unread : String) : Raised → String
  | .evidence reason => reason
  | .permission => denied
  | .os => unread
  | .value => unread

def StorageMount.failed (row : StorageMount) (e : Raised) : StorageMount :=
  { row with
    status := .unavailable
    reason := e.reason "Permission denied while reading mount evidence." "Filesystem evidence could not be read."
    bytes := none
    inodes := none }

def sentinel : ℤ := 2 ^ 32 - 1

/-- `row.inodes` -/
def inodesOf (value : Statistics) : Option StorageCounters :=
  if value.files ≠ 0 ∧ sentinel ∉ [value.files,value.ffree,value.favail] then counters value.files value.ffree value.favail 1 else none

def StorageMount.sampled (row : StorageMount) (value : Statistics) (bytes : StorageCounters) : StorageMount :=
  { row with
    bytes := some bytes
    inodes := inodesOf value
    inodeReason := if (inodesOf value).isSome then "Observed with fstatvfs."
      else "Zero, sentinel or inconsistent inode accounting; availability is unknown."
    status := .observed
    reason := "Pinned descriptor matched the current mount tuple before and after fstatvfs." }

/-- One row, as far as its own evidence goes. -/
def sampleRow (mount : Mount) (original : List Mount) (row : StorageMount) : Program Kernel Raised StorageMount := do
  match ← Program.attempt (sample mount original) with
  | .error e => pure (row.failed e)
  | .ok value =>
    match counters value.blocks value.bfree value.bavail value.frsize with
    | none => pure (row.failed unmatched)
    | some bytes =>
      match ← Program.attempt (backing mount original) with
      | .error _ => pure (row.sampled value bytes)
      | .ok name => pure { row.sampled value bytes with
          backingName := some name
          backingReason := "Immediate kernel block device via major:minor; lower topology not enumerated." }

/-- Namespace and table once more. -/
def revalidate (identity : Text) (original : List Mount) : Program Kernel Raised Unit := do
  let current ← readNamespace
  if current ≠ identity then throw (.evidence changedCollecting)
  else do
    let mounts ← table
    if mounts ≠ original then throw (.evidence changedCollecting) else pure ()

/-- What ends a collection, and what it has of the answer by then. -/
structure Stopped where
  raised : Raised
  namespaceId : Option Text
  mounts : List StorageMount
deriving DecidableEq,Repr

def stopping {α : Type} (identity : Option Text) (mounts : List StorageMount) (p : Program Kernel Raised α) : Program Kernel Stopped α :=
  p.mapError fun raised => ⟨raised,identity,mounts⟩

def collectRows (identity : Text) (original : List Mount) : List Mount → List StorageMount → Program Kernel Stopped (List StorageMount)
  | [],rows => pure rows
  | mount :: rest,rows =>
    if mount.filesystem ∉ supported then collectRows identity original rest (rows ++ [passedOver mount])
    else do
      stopping (some identity) (rows ++ [listed mount]) (ask .work)
      let row ← stopping (some identity) (rows ++ [listed mount]) (sampleRow mount original (listed mount))
      stopping (some identity) (rows ++ [row]) (revalidate identity original)
      collectRows identity original rest (rows ++ [row])

def coverage (identity : Text) (original : List Mount) (mounts : List StorageMount) : StorageObservation :=
  if maxMounts < original.length then
    ⟨.partly,"Mount list truncated at 128 rows; coverage is partial. No host total.",some identity,mounts⟩
  else if mounts.all fun m => m.status = .observed && m.inodes.isSome then
    ⟨.complete,"All listed mounts sampled in the agent namespace; backing coverage is separate. No host total.",some identity,mounts⟩
  else ⟨.partly,"Only ext4/xfs in the agent mount namespace are sampled; no host total.",some identity,mounts⟩

def collected : Program Kernel Stopped StorageObservation := do
  let current ← stopping none [] readNamespace
  let original ← stopping (some current) [] table
  let rows ← collectRows current original (original.take maxMounts) []
  stopping (some current) rows (revalidate current original)
  pure (coverage current original rows)

def StorageMount.withdrawn (row : StorageMount) : StorageMount :=
  { row with
    status := .changed
    reason := "Observation could not be revalidated."
    bytes := none
    inodes := none
    inodeReason := "Observation could not be revalidated."
    backingName := none
    backingReason := "Backing evidence could not be revalidated." }

def Stopped.answer (s : Stopped) : StorageObservation where
  status := .unavailable
  reason := s.raised.reason "Permission denied reading mount namespace metadata." "Mount namespace metadata is malformed or unreadable."
  namespaceId := s.namespaceId
  mounts := s.mounts.map StorageMount.withdrawn

def collect : Program Kernel Raised StorageObservation := do
  match ← Program.attempt collected with
  | .ok answer => pure answer
  | .error stopped => pure stopped.answer

end Storage
end LocalPlane
