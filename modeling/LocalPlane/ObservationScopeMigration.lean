import LocalPlane.ConnectionGuardMigration

/-!
# The eleventh migration

A sweep says how much of the host it covers.
-/

set_option linter.dupNamespace false

namespace LocalPlane
namespace Migrations
namespace ObservationScope

open Sql

def scope : ColumnDef Column := .orElse .text .scope (.text "inventory")

def scopeChecks : List (Condition Column) := [.oneOf .scope ["inventory","targeted"]]

/-- The table with its new column. -/
def observationSweeps : TableDef Table Column :=
  { Initial.observationSweeps with
    columns := Initial.observationSweeps.columns ++ [scope]
    checks := Initial.observationSweeps.checks ++ scopeChecks }

def idxSweepsHostCapabilityScopeReceived : Index Table Column where
  table := .observationSweeps
  columns := [.hostId,.capability,.scope,.receivedAt]
  unique := false
  filter := none

def migration : Migration Table Column Name where
  version := 11
  suspendsForeignKeys := false
  statements := [.addColumn .observationSweeps scope scopeChecks,
    .createIndex .idxSweepsHostCapabilityScopeReceived idxSweepsHostCapabilityScopeReceived]

end ObservationScope
end Migrations
end LocalPlane
