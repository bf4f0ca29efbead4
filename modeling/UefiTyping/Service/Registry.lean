import UefiTyping.Service.Table

/-!
# Registry of service tables

The service tables that a run may use, by the name of their structure.
-/
namespace UefiTyping

open Std (ExtTreeMap)

/-- Service tables by name. -/
structure ServiceTableRegistry where
  tables : ExtTreeMap String ServiceTable

namespace ServiceTableRegistry

/-- The registry without tables. -/
def empty : ServiceTableRegistry := ⟨∅⟩

/-- Registers a table, in place of any of its name. -/
def register (registry : ServiceTableRegistry) (table : ServiceTable) : ServiceTableRegistry :=
  ⟨registry.tables.insert table.name table⟩

/-- The table of a name. -/
def get? (registry : ServiceTableRegistry) (name : String) : Option ServiceTable :=
  registry.tables[name]?

/-- The table of a kind. -/
def ofKind? (registry : ServiceTableRegistry) (kind : ServiceTableKind) : Option ServiceTable :=
  registry.get? kind.typeName

/-- The catalogs for x64. -/
def builtin : ServiceTableRegistry :=
  ServiceTableKind.all.foldl (fun registry kind => registry.register kind.catalog) empty

/-- The known tables, with the offsets that a database gives them. -/
def fromLayouts (db : TypeDatabase) : Except CatalogError ServiceTableRegistry := do
  let boot ← ServiceTable.fromLayout db Uefi.bootServicesName ServiceTable.bootServicesSpecs
  let smm ← ServiceTable.fromLayout db Uefi.smmSystemTableName ServiceTable.smmServicesSpecs
  return (empty.register boot).register smm

/-- The tables in the order of their names. -/
def toList (registry : ServiceTableRegistry) : List ServiceTable := registry.tables.values

/-- How many tables there are. -/
def size (registry : ServiceTableRegistry) : Nat := registry.tables.size

end ServiceTableRegistry
end UefiTyping
