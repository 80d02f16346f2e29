import LocalPlane.StableSort
import LocalPlane.Texts
import Mathlib.Data.List.Lex

/-!
# The inventory of loaded units

The systemd provider lists the loaded units over one connection and reads each listed unit
at its object path, within one deadline. A unit that cannot be read costs itself, a failed
transport ends the loop, and names that lead to a unit already read are collapsed into it.
-/

set_option linter.dupNamespace false

namespace LocalPlane
namespace LoadedUnits

abbrev Text := List Char

/-- A property of a unit or of the manager, as far as it is text. -/
inductive Value where
  | text (value : Text)
  | list (items : List (Option Text))
  | other
deriving DecidableEq,Repr

abbrev Properties := List (Text × Value)

def property (properties : Properties) (name : String) : Option Value :=
  (properties.find? fun e => e.1 = name.toList).map (·.2)

/-- The exceptions that a call and the checks on its answer raise. -/
inductive Raised where
  | deadline | timeout | os
  | dbus (name : Text)
  | systemd (reason : String)
  | other
deriving DecidableEq,Repr

/-- `TimeoutError` -/
def Raised.timedOut : Raised → Bool
  | .deadline => true
  | .timeout => true
  | _ => false

/-- `(OSError, TimeoutError, ConnectionError)` -/
def Raised.transport : Raised → Bool
  | .os => true
  | e => e.timedOut

/-- A field of a listed row, with what `str` makes of it. -/
inductive Field where
  | text (value : Text)
  | other (shown : Text)
deriving DecidableEq,Repr

def Field.str : Field → Text
  | .text value => value
  | .other shown => shown

/-- A row that is a list or a tuple has fields. -/
structure Row where
  fields : Option (List Field)
deriving DecidableEq,Repr

def Row.field (row : Row) (n : ℕ) : Text := (((row.fields.getD [])[n]?).map Field.str).getD []

def Row.name (row : Row) : Text := row.field 0

def Row.objectPath (row : Row) : Text := row.field 6

def Row.readable (row : Row) : Bool :=
  match row.fields with
  | some (.text _ :: rest) => 6 ≤ rest.length
  | _ => false

/-- `SUPPORTED_UNIT_SUFFIXES` -/
def supportedUnitSuffixes : List Text := [".service",".socket",".timer",".target",".path",".mount"].map String.toList

def rowIsSupported (row : Row) : Bool := row.readable && supportedUnitSuffixes.any (·.isSuffixOf row.name)

def unitType (unitId : Text) : Option Text := (supportedUnitSuffixes.find? (·.isSuffixOf unitId)).map (·.drop 1)

/-- The types with an interface of their own. -/
def typeInterfaces : List Text := ["service","socket","timer","path","mount"].map String.toList

def unknownMethodErrors : List Text :=
  ["org.freedesktop.DBus.Error.UnknownMethod","org.freedesktop.DBus.Error.UnknownInterface"].map String.toList

/-- The order in which names are sorted. -/
def codes (name : Text) : List ℕ := name.map Char.toNat

structure UnitObservation where
  canonicalId : Text
  names : Option (List Text)
  unitType : Text
  typeGap : Bool
  listedName : Text
deriving DecidableEq,Repr

inductive Issue where
  | managerCoreMissing (gaps : List String)
  | managerOptionalMissing (gaps : List String)
  | rowsUnreadable (count : ℕ)
  | limitReached (listed limit omitted : ℕ) (truncated : Bool)
  | unitReadFailed (unit : Text) (failure : Raised)
  | aliasCollapsed (canonicalId listedName : Text)
  | inventoryTimeout (observed : ℕ) (failure : Raised)
  | inventoryInterrupted (failure : Raised)
  | failed (reason : String) (failure : Option Raised)
deriving DecidableEq,Repr

def Issue.code : Issue → String
  | .managerCoreMissing _ => "manager_core_properties_missing"
  | .managerOptionalMissing _ => "manager_optional_metadata_missing"
  | .rowsUnreadable _ => "inventory_rows_unreadable"
  | .limitReached _ _ _ _ => "inventory_limit_reached"
  | .unitReadFailed _ _ => "unit_read_failed"
  | .aliasCollapsed _ _ => "alias_duplicate_collapsed"
  | .inventoryTimeout _ _ => "inventory_timeout"
  | .inventoryInterrupted _ => "inventory_interrupted"
  | .failed reason _ => reason

inductive BatchStatus where
  | ok | partly | failed
deriving DecidableEq,Repr

structure UnitBatch where
  status : BatchStatus
  providerVersion : Option Text := none
  units : List UnitObservation := []
  listedCount : Option ℕ := none
  selectedCount : ℕ := 0
  inventoryLimit : ℕ
  inventoryComplete : Bool := false
  truncated : Bool := false
  capReached : Bool := false
  inventoryMethod : Option Text := none
  issues : List Issue := []
  reason : Option String := none
deriving DecidableEq,Repr

/-- How the provider is set up. Times are whole units of its clock. -/
structure Config where
  timeout : ℤ
  inventoryTimeout : ℤ
  maxUnits : ℕ

/-- What the runtime directory, the clock and the manager answer to each question in turn. The reads of
units are numbered in the order of the rows, and every call is told the time it has. -/
structure Manager where
  runtimeMissing : Bool
  startedClock : ℤ
  connect : Except Raised Unit
  managerClock : ℤ
  managerProperties : ℤ → Except Raised Properties
  listClock : ℤ
  listLoadedUnits : ℤ → Except Raised (List Row × Text)
  unitClock : ℕ → ℤ
  unitProperties : ℕ → Text → ℤ → Except Raised Properties
  typeClock : ℕ → ℤ
  typeProperties : ℕ → Text → Text → ℤ → Except Raised Properties
  close : Except Raised Unit

def failedBatch (config : Config) (providerVersion : Option Text) (reason : String) (failure : Option Raised) : UnitBatch where
  status := .failed
  providerVersion := providerVersion
  inventoryLimit := config.maxUnits
  reason := some reason
  issues := [.failed reason failure]

section Reading

variable (config : Config) (m : Manager)

def remainingTimeout (now : ℤ) : Except Raised ℤ :=
  let remaining := m.startedClock + config.inventoryTimeout - now
  if remaining ≤ 0 then .error .deadline else .ok (min config.timeout remaining)

def textOrNone : Option Value → Option Text
  | some (.text []) => none
  | some (.text value) => some value
  | _ => none

/-- `sorted({…})` of the names that are text. -/
def namesOf (properties : Properties) : Option (List Text) :=
  match property properties "Names" with
  | some (.list items) => some (sortBy codes ((items.filterMap id).filter (· ≠ [])).dedup)
  | _ => none

def observePath (n : ℕ) (row : Row) : Except Raised UnitObservation := do
  let timeout ← remainingTimeout config m (m.unitClock n)
  let properties ← m.unitProperties n row.objectPath timeout
  match textOrNone (property properties "Id") with
  | none => throw (.systemd "canonical_id_unavailable")
  | some canonicalId =>
    match unitType canonicalId with
    | none => throw (.systemd "unsupported_unit_type")
    | some type =>
      if type ∈ typeInterfaces then do
        let timeout ← remainingTimeout config m (m.typeClock n)
        match m.typeProperties n row.objectPath type timeout with
        | .ok _ => pure ⟨canonicalId,namesOf properties,type,false,row.name⟩
        | .error (.dbus name) =>
          if name ∈ unknownMethodErrors then pure ⟨canonicalId,namesOf properties,type,true,row.name⟩ else throw (.dbus name)
        | .error e => throw e
      else pure ⟨canonicalId,namesOf properties,type,false,row.name⟩

/-- What the inventory has by the time it ends, however it ends. -/
structure Locals where
  units : List UnitObservation := []
  issues : List Issue := []
  providerVersion : Option Text := none
  listedCount : Option ℕ := none
  inventoryMethod : Option Text := none
  truncated : Bool := false
  capReached : Bool := false
deriving DecidableEq,Repr

/-- One row after another, up to a failure of the transport. -/
def readRows : ℕ → List Row → Locals → Locals × Option Raised
  | _,[],s => (s,none)
  | n,row :: rest,s =>
    match observePath config m n row with
    | .ok observation =>
      if s.units.any fun prior => prior.canonicalId = observation.canonicalId then
        readRows (n+1) rest { s with issues := s.issues ++ [.aliasCollapsed observation.canonicalId row.name] }
      else readRows (n+1) rest { s with units := s.units ++ [observation] }
    | .error e =>
      if e.transport then (s,some e)
      else readRows (n+1) rest { s with issues := s.issues ++ [.unitReadFailed row.name e] }

def missing (properties : Properties) (keys : List String) : List String :=
  (keys.filter fun key => (property properties key).isNone).map ("manager." ++ ·)

def managerIssues (properties : Properties) : List Issue :=
  let core := missing properties ["Version","SystemState"]
  let optional := missing properties ["Features","Virtualization","Architecture","Tainted"]
  (if core ≠ [] then [.managerCoreMissing core] else []) ++ (if optional ≠ [] then [.managerOptionalMissing optional] else [])

def selectedRows (rows : List Row) : List Row := sortBy (fun row => codes row.name) (rows.filter rowIsSupported)

def malformedRows (rows : List Row) : ℕ := (rows.filter fun row => !row.readable).length

/-- What is noted of a list of rows before any of them is read. -/
def listIssues (rows : List Row) : List Issue :=
  let listed := (selectedRows rows).length
  (if malformedRows rows ≠ 0 then [.rowsUnreadable (malformedRows rows)] else []) ++
    (if config.maxUnits ≤ listed then
      [.limitReached listed config.maxUnits (listed - config.maxUnits) (config.maxUnits < listed)] else [])

/-- What is done over the connection. -/
def inventory : Locals × Option Raised :=
  match remainingTimeout config m m.managerClock >>= m.managerProperties with
  | .error e => ({},some e)
  | .ok properties =>
    let read : Locals := { issues := managerIssues properties, providerVersion := textOrNone (property properties "Version") }
    match remainingTimeout config m m.listClock >>= m.listLoadedUnits with
    | .error e => (read,some e)
    | .ok (rows,method) =>
      let selected := selectedRows rows
      readRows config m 0 (selected.take config.maxUnits) { read with
        issues := read.issues ++ listIssues config rows
        listedCount := some selected.length
        inventoryMethod := some method
        truncated := config.maxUnits < selected.length
        capReached := config.maxUnits ≤ selected.length }

/-- `with self._connection_factory() as connection` -/
def connected : Locals × Option Raised :=
  match m.connect with
  | .error e => ({},some e)
  | .ok _ =>
    let (s,raised) := inventory config m
    match m.close with
    | .error e => (s,some e)
    | .ok _ => (s,raised)

def Issue.breaks : Issue → Bool
  | issue => issue.code ∈ ["unit_read_failed","inventory_interrupted","inventory_rows_unreadable"]

def batchOf (s : Locals) (timedOut : Bool) : UnitBatch :=
  let incomplete := s.truncated || timedOut || s.issues.any Issue.breaks
  { status := if incomplete then .partly else .ok
    providerVersion := s.providerVersion
    units := sortBy (fun u => codes u.canonicalId) s.units
    listedCount := s.listedCount
    selectedCount := min (s.listedCount.getD 0) config.maxUnits
    inventoryLimit := config.maxUnits
    inventoryComplete := !incomplete
    truncated := s.truncated
    capReached := s.capReached
    inventoryMethod := s.inventoryMethod
    issues := s.issues }

def observeUnits : UnitBatch :=
  if m.runtimeMissing then failedBatch config none "systemd_system_manager_absent" none
  else
    let (s,raised) := connected config m
    match raised with
    | none => batchOf config s false
    | some e =>
      if e.timedOut then
        if s.listedCount.isNone then failedBatch config s.providerVersion "inventory_timeout" (some e)
        else batchOf config { s with issues := s.issues ++ [.inventoryTimeout s.units.length e] } true
      else if s.units = [] then failedBatch config s.providerVersion "system_manager_read_failed" (some e)
      else batchOf config { s with issues := s.issues ++ [.inventoryInterrupted e] } false

end Reading

end LoadedUnits
end LocalPlane
