import LocalPlane.SqlTables
import Mathlib.Logic.Function.Basic

/-!
# Statements that change a schema

A rebuild stands for the four statements that replace a table: a second table is created, the
rows are inserted into it from the first, the first is dropped with its indexes and triggers,
and the second takes its name. The rename reads every trigger that is left, so none may read
the table while it is gone.
-/

set_option linter.dupNamespace false

namespace LocalPlane
namespace Sql

variable {T C N : Type}

/-- What INSERT … SELECT gives a column; `found` is a subquery on another table's key. -/
inductive Supply (T C : Type) where
  | column (c : C)
  | value (v : Cell)
  | found (t : T) (key from_ taken : C) (orElse : Cell)
  deriving DecidableEq

def Supply.eval (content : Content T C) (row : Row C) : Supply T C → Cell
  | column c => row c
  | value v => v
  | found t key from_ taken orElse =>
    match (content t).find? fun other => (other key).eq (row from_) = some true with
    | some other => if other taken = .null then orElse else other taken
    | none => orElse

inductive Statement (T C N : Type) where
  | dropTrigger (n : N)
  | dropIndex (n : N)
  | createTrigger (n : N) (g : Trigger T C)
  | createIndex (n : N) (i : Index T C)
  | createTable (t : T) (d : TableDef T C)
  | rebuild (t : T) (d : TableDef T C) (into : List C) (select : List (Supply T C))
  | addColumn (t : T) (c : ColumnDef C) (checks : List (Condition C))

structure Migration (T C N : Type) where
  version : ℕ
  suspendsForeignKeys : Bool
  statements : List (Statement T C N)

structure Database (T C N : Type) where
  schema : Schema T C N
  content : Content T C

def When.reads : When T C → List T
  | always => []
  | holds _ => []
  | any t _ => [t]
  | anyJoin t u _ => [t,u]
  | not w => w.reads
  | and v w => v.reads ++ w.reads
  | or v w => v.reads ++ w.reads

variable [DecidableEq T] [DecidableEq C] [DecidableEq N]

namespace Schema

def withTable (s : Schema T C N) (t : T) (d : TableDef T C) : Schema T C N :=
  { s with tables := s.tables.map fun e => if e.1 = t then (t,d) else e }

/-- A dropped table takes its indexes and triggers with it. -/
def withoutTable (s : Schema T C N) (t : T) : Schema T C N :=
  { s with
    indexes := s.indexes.filter fun i => i.2.table ≠ t
    triggers := s.triggers.filter fun g => g.2.table ≠ t }

def hasTable (s : Schema T C N) (t : T) : Bool := (s.table? t).isSome
def hasTrigger (s : Schema T C N) (n : N) : Bool := s.triggers.any (·.1 = n)
def hasIndex (s : Schema T C N) (n : N) : Bool := s.indexes.any (·.1 = n)
def readByTrigger (s : Schema T C N) (t : T) : Bool := s.triggers.any fun g => t ∈ g.2.condition.reads

/-- What a statement does to the schema, and when it cannot. -/
def step (s : Schema T C N) : Statement T C N → Option (Schema T C N)
  | .dropTrigger n => if s.hasTrigger n then some { s with triggers := s.triggers.filter (·.1 ≠ n) } else none
  | .dropIndex n => if s.hasIndex n then some { s with indexes := s.indexes.filter (·.1 ≠ n) } else none
  | .createTrigger n g =>
    if s.hasTable g.table && !s.hasTrigger n then some { s with triggers := s.triggers ++ [(n,g)] } else none
  | .createIndex n i =>
    if s.hasTable i.table && !s.hasIndex n then some { s with indexes := s.indexes ++ [(n,i)] } else none
  | .createTable t d => if s.hasTable t then none else some { s with tables := s.tables ++ [(t,d)] }
  | .rebuild t d into select =>
    if s.hasTable t && into.length = select.length && into.all (fun c => (d.column? c).isSome) &&
        !(s.withoutTable t).readByTrigger t then
      some ((s.withoutTable t).withTable t d)
    else none
  | .addColumn t c checks =>
    (s.table? t).bind fun d =>
      if (d.column? c.name).isNone && (!c.notNull || c.default ≠ .null) then
        some (s.withTable t { d with columns := d.columns ++ [c], checks := d.checks ++ checks })
      else none

def steps : Schema T C N → List (Statement T C N) → Option (Schema T C N)
  | s,[] => some s
  | s,statement :: rest => (s.step statement).bind fun s' => s'.steps rest

/-- The schema a migration that can be applied leaves. -/
def migrated (s : Schema T C N) (m : Migration T C N) : Schema T C N := (s.steps m.statements).getD s

end Schema

variable (read : String → String → Cell)

def pairwiseApart (keys : List (List C × Option (Condition C))) (rows : List (Row C)) : Prop :=
  rows.Pairwise fun row other => keys.all (fun k => !clash read k.1 k.2 row other) = true

instance (keys : List (List C × Option (Condition C))) (rows : List (Row C)) :
    Decidable (pairwiseApart read keys rows) := by unfold pairwiseApart; infer_instance

namespace Database

/-- A row of the second table, as the insert builds it. -/
def restated (content : Content T C) (d : TableDef T C) (into : List C) (select : List (Supply T C)) (row : Row C) :
    Row C := d.build ((into.zip select).map fun p => (p.1,p.2.eval content row))

/-- Whether another table's rows refer to rows of this one. -/
def referred (db : Database T C N) (t : T) : Bool :=
  db.schema.tables.any fun (u,d) => u ≠ t && d.references.any fun r =>
    r.table = t && (db.content u).any fun row => row r.column ≠ .null

/-- What a statement does to the rows, and when they refuse it. -/
def stepRows (db : Database T C N) (foreignKeys : Bool) : Statement T C N → Option (Content T C)
  | .createIndex _ i =>
    if i.unique → pairwiseApart read [(i.columns,i.filter)] (db.content i.table) then some db.content else none
  | .createTable t _ => some (Function.update db.content t [])
  | .rebuild t d into select =>
    let rows := (db.content t).map (restated db.content d into select)
    if rows.all (d.passes read) ∧ pairwiseApart read (d.uniques.map fun u => (u,none)) rows ∧
        (foreignKeys → db.referred t = false ∧ rows.all (Schema.anchored db.content d)) then
      some (Function.update db.content t rows)
    else none
  | .addColumn t c checks =>
    let rows := (db.content t).map fun row => Function.update row c.name c.default
    if rows.all fun row => checks.all fun check => Truth.accepts (check.eval read row) then
      some (Function.update db.content t rows)
    else none
  | _ => some db.content

def step (db : Database T C N) (foreignKeys : Bool) (statement : Statement T C N) : Option (Database T C N) :=
  (db.schema.step statement).bind fun schema => (db.stepRows read foreignKeys statement).map fun content => ⟨schema,content⟩

def steps (foreignKeys : Bool) : Database T C N → List (Statement T C N) → Option (Database T C N)
  | db,[] => some db
  | db,statement :: rest => (db.step read foreignKeys statement).bind fun db' => steps foreignKeys db' rest

/-- A migration that suspends foreign keys ends with a look at all of them. -/
def migrate (db : Database T C N) (m : Migration T C N) : Option (Database T C N) :=
  (steps read (!m.suspendsForeignKeys) db m.statements).bind fun db' =>
    if m.suspendsForeignKeys && !db'.schema.anchoredAll db'.content then none else some db'

def upgrade : Database T C N → List (Migration T C N) → Option (Database T C N)
  | db,[] => some db
  | db,m :: rest => (db.migrate read m).bind fun db' => upgrade db' rest

end Database
end Sql
end LocalPlane
