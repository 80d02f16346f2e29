import LocalPlane.Interleaving
import LocalPlane.MigrationScripts

/-!
# Opening and migrating the store

Each process has its own connection to one file. What a statement comes to is for the outside
to say: it is executed where SQLite lets it be, it fails, it fails and SQLite ends the
transaction, or something other than an error of sqlite3 is raised before it is executed. A
process may die between any two statements.
-/

set_option linter.dupNamespace false

namespace LocalPlane
namespace MigrationRuns

/-- What a file holds: whether schema_migrations is there, the migrations its rows stand for, and every
statement of a script that is in effect. -/
structure Contents where
  ledger : Bool
  recorded : List Migration
  effects : List Text

/-- A connection, with a note of whether `apply_migrations` has begun on it, of the files it was given and
of the rows it read. -/
structure Connection where
  alive : Bool
  foreignKeys : Bool
  files : List (Text × Text)
  began : Bool
  seen : List LedgerRow

/-- The file, the write transaction that is open on it and whose it is, and the connections. -/
structure Store where
  file : Contents
  pending : Option (ℕ × Contents)
  connection : ℕ → Connection
  opened : ℕ

inductive Outcome where
  | done | failed | aborted | raised
  deriving DecidableEq

/-- The statements the source sends, and the commit of the sqlite3 module, which does nothing outside a transaction. -/
inductive Sql where
  | journalMode | busyTimeout | synchronous
  | foreignKeys (on : Bool)
  | createLedger | commitIfOpen | selectLedger
  | beginImmediate
  | statement (text : Text)
  | foreignKeyCheck
  | insertLedger (m : Migration)
  | rollback | commit

abbrev Sql.Answer : Sql → Type
  | selectLedger => List LedgerRow
  | foreignKeyCheck => ℕ
  | _ => Unit

abbrev sqlite : Signature := ⟨Sql,fun sql => Except Failure sql.Answer⟩

abbrev Script (α : Type) := Program sqlite Failure α

def execute (sql : Sql) : Script sql.Answer := .act sql .ret

section Source

variable (engine : Engine)

/-- The statements, the check of a suspended migration and the row that records it. -/
def migrationBody (m : Migration) : Script Unit :=
  match splitStatements engine m.sql with
  | .error e => throw e
  | .ok statements => do
    Program.forEach statements fun text => execute (.statement text)
    if m.suspendsForeignKeys then
      let violations ← execute .foreignKeyCheck
      if violations ≠ 0 then throw (.violations m.version m.name violations)
    execute (.insertLedger m)

/-- `if suspend`, the pragma is sent. -/
def enforce (m : Migration) (on : Bool) : Script Unit :=
  if m.suspendsForeignKeys then execute (.foreignKeys on) else pure ()

/-- What becomes of an error of the body: the transaction is rolled back and the pragma is set again. -/
def migrationFailed (m : Migration) (e : Failure) : Script Unit := do
  if e.caught then
    execute .rollback
    enforce m true
    throw (.failed m.version m.name e)
  else throw e

def migrationTransaction (m : Migration) : Script Unit := do
  execute .beginImmediate
  tryCatch (migrationBody engine m) (migrationFailed m)
  execute .commit
  enforce m true

def applyMigration (m : Migration) : Script Unit := do
  enforce m false
  migrationTransaction engine m

def applyMissing (applied : List LedgerRow) : List Migration → List Migration → Script (List Migration)
  | [],newlyApplied => pure newlyApplied
  | m :: rest,newlyApplied =>
    match applied.find? (·.version = m.version) with
    | some existing =>
      if existing.checksum ≠ m.checksum engine then
        throw (.checksumMismatch m.version m.name existing.checksum (m.checksum engine))
      else applyMissing applied rest newlyApplied
    | none => do
      applyMigration engine m
      applyMissing applied rest (newlyApplied ++ [m])

def applyMigrations (files : List (Text × Text)) : Script (List Migration) := do
  execute .createLedger
  execute .commitIfOpen
  let applied ← execute .selectLedger
  match loadMigrations files with
  | .error e => throw e
  | .ok migrations =>
    let orphaned := (applied.map (·.version)).filter (· ∉ migrations.map (·.version))
    if orphaned ≠ [] then throw (.orphaned orphaned)
    applyMissing engine applied migrations []

def openDatabase (files : List (Text × Text)) : Script (List Migration) := do
  execute .journalMode
  execute (.foreignKeys true)
  execute .busyTimeout
  execute .synchronous
  applyMigrations engine files

end Source

namespace Store

variable (engine : Engine) (i : ℕ) (w : Store)

def inTransaction : Bool := w.pending.any (·.1 = i)

/-- What connection `i` reads: its own transaction, or the file. -/
def view : Contents :=
  match w.pending with
  | some (j,c) => if j = i then c else w.file
  | none => w.file

/-- A write goes to the transaction that is open; outside one it is a transaction of its own. Another
connection's transaction locks it out. -/
def write (change : Contents → Option Contents) : Option Store :=
  match w.pending with
  | some (j,c) => if j = i then (change c).map fun c => { w with pending := some (i,c) } else none
  | none => (change w.file).map fun c => { w with file := c }

def setConnection (change : Connection → Connection) : Store :=
  { w with connection := Function.update w.connection i (change (w.connection i)) }

def begin : Option Store := if w.pending.isNone then some { w with pending := some (i,w.file) } else none

def commit : Option Store :=
  match w.pending with
  | some (j,c) => if j = i then some { w with file := c, pending := none } else none
  | none => none

def rollback : Option Store := if w.inTransaction i then some { w with pending := none } else none

/-- The connection's transaction, if it has one, is gone. -/
def abandon : Store := (w.rollback i).getD w

/-- The pragma is ignored inside a transaction. -/
def foreignKeys (on : Bool) : Store :=
  if w.inTransaction i then w else w.setConnection i fun c => { c with foreignKeys := on }

def addEffect (text : Text) (c : Contents) : Contents := { c with effects := c.effects ++ [text] }

def insert (m : Migration) (c : Contents) : Option Contents :=
  if m.version ∈ c.recorded.map (·.version) then none else some { c with recorded := c.recorded ++ [m] }

def statement (text : Text) : Option Store :=
  match engine.kind text with
  | .ordinary => w.write i fun c => some (addEffect text c)
  | .begin => w.begin i
  | .commit => w.commit i
  | .rollback => w.rollback i
  | .foreignKeys on => some (w.foreignKeys i on)
  | .ledger change => w.write i fun c => some (addEffect text { c with recorded := change c.recorded })

/-- What a statement answers and leaves where SQLite executes it. -/
def run : (sql : Sql) → Option (sql.Answer × Store)
  | .journalMode | .busyTimeout | .synchronous => some ((),w)
  | .foreignKeys on => some ((),w.foreignKeys i on)
  | .createLedger =>
    if (w.view i).ledger then some ((),w) else (w.write i fun c => some { c with ledger := true }).map ((),·)
  | .commitIfOpen => if w.inTransaction i then (w.commit i).map ((),·) else some ((),w)
  | .selectLedger =>
    let rows := (w.view i).recorded.map (·.row engine)
    some (rows,w.setConnection i fun c => { c with seen := rows })
  | .beginImmediate => (w.begin i).map ((),·)
  | .statement text => (w.statement engine i text).map ((),·)
  | .foreignKeyCheck => some (engine.violations (w.view i).effects,w)
  | .insertLedger m => (w.write i (insert m)).map ((),·)
  | .rollback => (w.rollback i).map ((),·)
  | .commit => (w.commit i).map ((),·)

/-- The first statement of `apply_migrations` is noted, whatever becomes of it. -/
def noted : Sql → Store
  | .createLedger => w.setConnection i fun c => { c with began := true }
  | _ => w

def perform (sql : Sql) (outcome : Outcome) : Except Failure sql.Answer × Store :=
  if (w.connection i).alive then
    let w := w.noted i sql
    match outcome with
    | .done =>
      match w.run engine i sql with
      | some answered => (.ok answered.1,answered.2)
      | none => (.error .sqlite,w)
    | .failed => (.error .sqlite,w)
    | .aborted => (.error .sqlite,w.abandon i)
    | .raised => (.error .other,w)
  else (.error .other,w)

/-- A new connection: SQLite does not enforce foreign keys until it is told to. -/
def enter (files : List (Text × Text)) : ℕ × Store :=
  (w.opened,{ w with
    opened := w.opened + 1
    connection := Function.update w.connection w.opened ⟨true,false,files,false,[]⟩ })

/-- A process ends: its transaction is gone with its connection. -/
def die : Store := (w.abandon i).setConnection i fun c => { c with alive := false }

/-- The host goes down. -/
def crash : Store := { w with pending := none, connection := fun i => { w.connection i with alive := false } }

end Store

section Recorded

variable (engine : Engine)

/-- The rows are those of the migrations whose every statement is in effect, each once and in turn, and no
migration that suspended foreign keys left a dangling reference. -/
structure Contents.Exact (c : Contents) : Prop where
  once : (c.recorded.map (·.version)).Nodup
  effects : c.effects = c.recorded.flatMap (·.statements engine)
  checked : ∀ before m after, c.recorded = before ++ m :: after → m.suspendsForeignKeys = true →
    engine.violations ((before ++ [m]).flatMap (·.statements engine)) = 0

/-- A store with any list of migrations applied and nobody connected. -/
def Store.Initial (w : Store) : Prop :=
  w.file.Exact engine ∧ w.pending = none ∧ w.opened = 0 ∧ ∀ i, (w.connection i).alive = false ∧ (w.connection i).began = false

end Recorded

abbrev processes (engine : Engine) : Interleaved where
  sig := sqlite
  World := Store
  Outside := Outcome
  Request := List (Text × Text)
  External := ℕ
  Error := Failure
  Response := List Migration
  initial := Store.Initial engine
  enter files w := some (w.enter files)
  program _ files := openDatabase engine files
  perform i sql outcome w := w.perform engine i sql outcome
  outer i w := some (w.die i)
  crash := Store.crash

end MigrationRuns
end LocalPlane
