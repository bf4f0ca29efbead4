import UefiTyping.CType.Json
import UefiTyping.Json.Printer
import UefiTyping.TypeDatabase.Basic

/-!
# Type databases as JSON documents

A database is written as its types and its typedefs, each an object from name to type.
The pointer size is not part of the document: a loaded database is one for x64.
-/
namespace UefiTyping.TypeDatabase

open Json (Decoder)
open Std (ExtTreeMap)

/-- The document of types by name. -/
def entriesToJson (entries : ExtTreeMap String CType) : Json :=
  .ofFields (entries.toList.map fun entry => (entry.1, entry.2.toJson))

/-- The document of a database. -/
def toJson (db : TypeDatabase) : Json :=
  .ofFields [("types", entriesToJson db.types), ("typedefs", entriesToJson db.synonyms)]

/-- The text of a database. -/
def toText (db : TypeDatabase) : String := db.toJson.indented

/-- Types by name; of two entries for one name the later one stays. -/
def decodeEntries : Decoder (ExtTreeMap String CType) := fun levels document =>
  (Decoder.members Decoder.textKey CType.ofJson levels document).map (ExtTreeMap.ofList ·)

/-- The database that a document writes. -/
def ofJson : Decoder TypeDatabase :=
  .record [⟨"types", [], false⟩, ⟨"typedefs", [], false⟩]
    fun
      | levels, [some types, some synonyms] => do
        return ⟨← decodeEntries levels types, ← decodeEntries levels synonyms, pointerSizeX64⟩
      | _, _ => none

/-- The database that a text writes. -/
def ofText? (text : String) : Option TypeDatabase := ofJson.ofText? text

end UefiTyping.TypeDatabase
