import LocalPlane.TextLines
import LocalPlane.TextNumbers

/-!
# Migration scripts

A migration is a numbered file of SQL. Its statements are found by asking SQLite after every
line whether what has been gathered is complete, and a line of its own may declare that it
needs foreign keys suspended.
-/

set_option linter.dupNamespace false

namespace LocalPlane
namespace MigrationRuns

abbrev Text := List Char

/-- A migration, with its version, its name and its script. -/
structure Migration where
  version : ℤ
  name : Text
  sql : Text
  deriving DecidableEq

/-- A row of schema_migrations. -/
structure LedgerRow where
  version : ℤ
  name : Text
  checksum : Text
  deriving DecidableEq

/-- What is raised: an error of sqlite3, a MigrationError of one kind or another, or anything else. -/
inductive Failure where
  | sqlite
  | other
  | badFilename (stem : Text)
  | duplicateVersions (versions : List ℤ)
  | orphaned (versions : List ℤ)
  | checksumMismatch (version : ℤ) (name recorded onDisk : Text)
  | violations (version : ℤ) (name : Text) (count : ℕ)
  | incomplete (rest : Text)
  | failed (version : ℤ) (name : Text) (cause : Failure)

/-- `except (sqlite3.Error, MigrationError)`. -/
def Failure.caught : Failure → Bool
  | other => false
  | _ => true

/-- What a statement of a script does beyond its own rows: nothing, or it moves the transaction, the
pragma or the rows of schema_migrations. -/
inductive Kind where
  | ordinary
  | begin | commit | rollback
  | foreignKeys (on : Bool)
  | ledger (change : List Migration → List Migration)

/-- What SQLite and the digest do: whether a text is a complete statement, what kind of statement it
is, and how many dangling references there are after a list of statements. -/
structure Engine where
  complete : Text → Bool
  kind : Text → Kind
  violations : List Text → ℕ
  sha256 : Text → Text

def foreignKeysOffDirective : Text := "-- localplane:foreign-keys=off".toList

namespace Migration

variable (engine : Engine) (m : Migration)

def checksum : Text := engine.sha256 m.sql

def row : LedgerRow := ⟨m.version,m.name,m.checksum engine⟩

def suspendsForeignKeys : Bool := (TextLines.splitlines m.sql).any fun line => TextNumbers.strip line = foreignKeysOffDirective

end Migration

section Splitting

variable (engine : Engine)

/-- The statements found so far and the text gathered since the last of them. -/
def gather (s : List Text × Text) (line : Text) : List Text × Text :=
  let buffer := s.2 ++ line
  if engine.complete buffer then (if TextNumbers.strip buffer = [] then s.1 else s.1 ++ [buffer],[])
  else (s.1,buffer)

def splitStatements (script : Text) : Except Failure (List Text) :=
  let gathered := (TextLines.linesKept script).foldl (gather engine) ([],[])
  if TextNumbers.strip gathered.2 = [] then .ok gathered.1
  else .error (.incomplete ((TextNumbers.strip gathered.2).take 80))

/-- The statements of a script that is complete. -/
def Migration.statements (m : Migration) : List Text := (splitStatements engine m.sql).toOption.getD []

end Splitting

section Loading

/-- What stands before the first underscore, and what stands after it. -/
def partition (stem : Text) : Text × Text := (stem.takeWhile (· ≠ '_'),(stem.dropWhile (· ≠ '_')).drop 1)

/-- A file of the migrations directory: its stem and its text. -/
def loadMigration (file : Text × Text) : Except Failure Migration :=
  let (before,name) := partition file.1
  match TextNumbers.int before with
  | none => .error (.badFilename file.1)
  | some version => .ok ⟨version,if name = [] then file.1 else name,file.2⟩

/-- The files in the order of their names. -/
def loadMigrations (files : List (Text × Text)) : Except Failure (List Migration) := do
  let migrations ← files.mapM loadMigration
  if (migrations.map (·.version)).Nodup then return migrations
  else throw (.duplicateVersions (migrations.map (·.version)))

theorem loadMigrations_nodup {files : List (Text × Text)} {migrations : List Migration}
    (h : loadMigrations files = .ok migrations) : (migrations.map (·.version)).Nodup := by
  unfold loadMigrations at h
  cases hm : files.mapM loadMigration with
  | error e => simp [hm,bind,Except.bind] at h
  | ok ms =>
    simp only [hm,bind,Except.bind] at h
    split at h
    · next hn => cases h; exact hn
    · cases h

end Loading

end MigrationRuns
end LocalPlane
