import UefiTyping.Program.Basic
import UefiTyping.Retype.Commit
import UefiTyping.Retype.Config
import UefiTyping.Service.Registry

/-!
# Batches

A batch works through usage records in order. For each it walks the function that the
record lies in, once for each table. A record whose function cannot be found or
decompiled is skipped and listed; the batch always goes on. A function with several
records is walked for each of them.
-/
namespace UefiTyping

variable {σ : Type} [VariableStore σ]

/-- What a run works with. -/
structure RetypeBatch where
  source : FunctionSource
  types : TypeDatabase
  protocols : ProtocolRegistry
  /-- The tables looked for, in order. -/
  tables : List ServiceTable
  config : RetypeConfig

namespace RetypeBatch

/-- A batch with the tables of the configuration that are registered. -/
def ofRegistry (source : FunctionSource) (types : TypeDatabase) (protocols : ProtocolRegistry)
    (registry : ServiceTableRegistry) (config : RetypeConfig) : RetypeBatch :=
  ⟨source, types, protocols, config.tables.filterMap registry.ofKind?, config⟩

/-- The function that a record lies in: the one it gives, else the one around its site. -/
def functionOf (batch : RetypeBatch) (record : UsageRecord) :
    Except AnalysisError DecompiledFunction :=
  match record.functionAddress <|> batch.source.functionAt? record.codeAddress with
  | none => .error (.functionNotFound record.codeAddress)
  | some entry => batch.source.decompile entry

/-- The walk of one record's function for a table. -/
def traversal (batch : RetypeBatch) (records : List UsageRecord) (record : UsageRecord)
    (table : ServiceTable) : Traversal :=
  ⟨⟨batch.types, batch.protocols, batch.source.image⟩, table, records,
    batch.config.requireUsageSite, record.codeAddress⟩

/-- Works on one of the records. -/
def runRecord (batch : RetypeBatch) (records : List UsageRecord) (record : UsageRecord) : Stage σ :=
  match batch.functionOf record with
  | .error error => Stage.report (.ofSkipped error)
  | .ok function =>
    Stage.each
      (fun table => (batch.traversal records record table).apply function batch.config.dryRun)
      batch.tables

/-- Works through the records. -/
def run (batch : RetypeBatch) (records : List UsageRecord) : Stage σ :=
  Stage.each (fun record =>
    (Stage.report (.ofStats { RetypeStats.zero with records := 1 })).andThen
      (batch.runRecord records record)) records

end RetypeBatch

/-- Works through the records with the catalogs for x64. -/
def retypeAll (source : FunctionSource) (types : TypeDatabase) (protocols : ProtocolRegistry)
    (config : RetypeConfig) (records : List UsageRecord) : Stage σ :=
  (RetypeBatch.ofRegistry source types protocols .builtin config).run records

end UefiTyping
