import UefiTyping.Service.Table
import UefiTyping.Text.Blank

/-!
# Configuration of a retyping run
-/
namespace UefiTyping

/-- What a retyping run works on, and how. -/
structure RetypeConfig where
  /-- The tables whose calls are retyped, in order and without repetition. -/
  tables : List ServiceTableKind
  /-- Whether a GUID is accepted only when a usage record for the site allows it. -/
  requireUsageSite : Bool
  /-- Whether the run decides and reports without touching the store. -/
  dryRun : Bool
deriving DecidableEq, Repr

namespace RetypeConfig

/-- All tables, only at recorded sites, and for real. -/
def standard : RetypeConfig := ⟨ServiceTableKind.all, true, false⟩

/-- The list without later repetitions. -/
def dedup (kinds : List ServiceTableKind) : List ServiceTableKind :=
  kinds.foldl (fun seen kind => if kind ∈ seen then seen else seen ++ [kind]) []

/-- Restricts the run to the given tables. -/
def withTables (config : RetypeConfig) (kinds : List ServiceTableKind) : RetypeConfig :=
  { config with tables := dedup kinds }

/-- Restricts the run to the tables that a list with commas names. Blanks around a name
and empty names do not count; a name that is no table makes it fail. -/
def withTableList? (config : RetypeConfig) (list : String) : Option RetypeConfig :=
  let names := ((list.toList.splitOn ',').map Text.trim).filter fun name => !name.isEmpty
  (names.mapM ServiceTableKind.parse?).map config.withTables

/-- Sets whether sites need a usage record. -/
def withUsageSite (config : RetypeConfig) (enable : Bool) : RetypeConfig :=
  { config with requireUsageSite := enable }

/-- Sets whether the run only plans. -/
def withDryRun (config : RetypeConfig) (enable : Bool) : RetypeConfig :=
  { config with dryRun := enable }

/-- Whether the run works on a table. -/
def isEnabled (config : RetypeConfig) (kind : ServiceTableKind) : Bool :=
  config.tables.contains kind

end RetypeConfig
end UefiTyping
