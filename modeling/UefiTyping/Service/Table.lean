import UefiTyping.Service.Descriptor
import UefiTyping.TypeDatabase.Basic
import UefiTyping.Uefi.Library

/-!
# Service tables

A service table is the catalog of one firmware structure: its type name and the
descriptors of its protocol-returning services, all of them well formed. The catalogs for
x64 have fixed offsets; the same services are also described without offsets, to be read
from the layout that a type database gives the structure.
-/
namespace UefiTyping

/-- The descriptors of one service table structure. Each way of making a descriptor refuses
one whose indices are behind the arguments, so a table has none. -/
structure ServiceTable where
  /-- The name under which the structure is registered. -/
  name : String
  entries : List CallDescriptor
  wellFormed : ∀ entry ∈ entries, entry.WellFormed
deriving DecidableEq, Repr

/-- A traversal that succeeds gives the results of its items. -/
theorem map_eq_of_mapM_eq_ok {α β ε : Type} {f : α → Except ε β} {items : List α}
    {results : List β} (h : items.mapM f = .ok results) : items.map f = results.map .ok := by
  induction items generalizing results with
  | nil =>
    obtain rfl := Except.ok.inj h
    rfl
  | cons item items ih =>
    rw [List.mapM_cons] at h
    cases hitem : f item with
    | error error =>
      rw [hitem] at h
      cases h
    | ok result =>
      rw [hitem] at h
      cases hrest : items.mapM f with
      | error error =>
        rw [hrest] at h
        cases h
      | ok rest =>
        rw [hrest] at h
        obtain rfl := Except.ok.inj h
        rw [List.map_cons, List.map_cons, hitem, ih hrest]

theorem exists_of_mem_mapM {α β ε : Type} {f : α → Except ε β} {items : List α}
    {results : List β} (h : items.mapM f = .ok results) {result : β} (hmem : result ∈ results) :
    ∃ item ∈ items, f item = .ok result := by
  have hresult : Except.ok result ∈ results.map (Except.ok : β → Except ε β) := List.mem_map_of_mem hmem
  rw [← map_eq_of_mapM_eq_ok h] at hresult
  exact List.mem_map.1 hresult

namespace ServiceTable

/-- The table of the descriptors that items give, all of them well formed. The first item
that gives none makes it fail. -/
def ofItems {α ε : Type} (name : String) (descriptorOf : α → Except ε CallDescriptor)
    (hformed : ∀ {item descriptor}, descriptorOf item = .ok descriptor → descriptor.WellFormed)
    (items : List α) : Except ε ServiceTable :=
  match h : items.mapM descriptorOf with
  | .error error => .error error
  | .ok entries =>
    .ok ⟨name, entries, fun _ hentry =>
      let ⟨_, _, hitem⟩ := exists_of_mem_mapM h hentry
      hformed hitem⟩

theorem mapM_of_ofItems {α ε : Type} {name : String} {descriptorOf : α → Except ε CallDescriptor}
    {hformed : ∀ {item descriptor}, descriptorOf item = .ok descriptor → descriptor.WellFormed}
    {items : List α} {table : ServiceTable} (h : ofItems name descriptorOf hformed items = .ok table) :
    table.name = name ∧ items.mapM descriptorOf = .ok table.entries := by
  rw [ofItems] at h
  split at h
  · cases h
  · next entries hentries =>
    obtain rfl := Except.ok.inj h
    exact ⟨rfl, hentries⟩

/-- The table of a fixed catalog, or the argument that makes the catalog invalid. -/
def ofCatalog (name : String) (entries : List CallDescriptor) :
    Except ArgumentRole ServiceTable :=
  ofItems name CallDescriptor.ofCatalog CallDescriptor.wellFormed_of_ofCatalog entries

/-- The service whose function pointer sits at an offset. -/
def findByOffset? (table : ServiceTable) (offset : UInt32) : Option CallDescriptor :=
  table.entries.find? (·.tableOffset == offset)

/-- The service of a name. -/
def findByName? (table : ServiceTable) (name : String) : Option CallDescriptor :=
  table.entries.find? (·.name == name)

/-- The descriptor of one service, at the offset the layout of the structure gives. -/
def describe (db : TypeDatabase) (name : String) (spec : DescriptorSpec) :
    Except CatalogError CallDescriptor :=
  match db.offsetIn name spec.field with
  | .error error => .error (.layout error)
  | .ok offset => (spec.at offset).check

/-- A description is checked at the offset of its field. -/
theorem check_of_describe {db : TypeDatabase} {name : String} {spec : DescriptorSpec}
    {entry : CallDescriptor} (h : describe db name spec = .ok entry) :
    ∃ offset, db.offsetIn name spec.field = .ok offset ∧ (spec.at offset).check = .ok entry := by
  rw [describe] at h
  split at h
  · cases h
  · next offset hoffset => exact ⟨offset, hoffset, h⟩

theorem wellFormed_of_describe {db : TypeDatabase} {name : String} {spec : DescriptorSpec}
    {entry : CallDescriptor} (h : describe db name spec = .ok entry) : entry.WellFormed := by
  obtain ⟨offset, -, hcheck⟩ := check_of_describe h
  exact CallDescriptor.wellFormed_of_check hcheck

/-- The table whose offsets are those of the structure of that name; the first service
that cannot be described makes it fail. -/
def fromLayout (db : TypeDatabase) (name : String) (specs : List DescriptorSpec) :
    Except CatalogError ServiceTable :=
  ofItems name (describe db name) wellFormed_of_describe specs

/-! ## The known tables -/

/-- The boot services that hand out interfaces. -/
def bootServices : ServiceTable :=
  ⟨Uefi.bootServicesName,
   [⟨"HandleProtocol", 0x98, 3, 1, 2, 1⟩,
    ⟨"LocateProtocol", 0x140, 3, 0, 2, 1⟩,
    ⟨"OpenProtocol", 0x118, 6, 1, 2, 2⟩],
   by decide⟩

/-- The SMM services that hand out interfaces. -/
def smmServices : ServiceTable :=
  ⟨Uefi.smmSystemTableName,
   [⟨"SmmHandleProtocol", 0xb8, 3, 1, 2, 1⟩,
    ⟨"SmmLocateProtocol", 0xd0, 3, 0, 2, 1⟩],
   by decide⟩

/-- The boot services, without offsets. -/
def bootServicesSpecs : List DescriptorSpec :=
  [⟨"HandleProtocol", 3, 1, 2, 1⟩,
   ⟨"LocateProtocol", 3, 0, 2, 1⟩,
   ⟨"OpenProtocol", 6, 1, 2, 2⟩]

/-- The SMM services, without offsets. -/
def smmServicesSpecs : List DescriptorSpec :=
  [⟨"SmmHandleProtocol", 3, 1, 2, 1⟩,
   ⟨"SmmLocateProtocol", 3, 0, 2, 1⟩]

end ServiceTable

/-- Which firmware table a catalog describes. -/
inductive ServiceTableKind
  | bootServices
  | smmServices
deriving DecidableEq, Repr

namespace ServiceTableKind

/-- Both kinds, in the order in which they are worked through. -/
def all : List ServiceTableKind := [.bootServices, .smmServices]

/-- The name in words. -/
def text : ServiceTableKind → String
  | .bootServices => "boot services"
  | .smmServices => "SMM services"

/-- The name of the structure. -/
def typeName : ServiceTableKind → String
  | .bootServices => Uefi.bootServicesName
  | .smmServices => Uefi.smmSystemTableName

/-- The catalog for x64. -/
def catalog : ServiceTableKind → ServiceTable
  | .bootServices => .bootServices
  | .smmServices => .smmServices

/-- The names that a kind is given by. -/
def spellings : ServiceTableKind → List String
  | .bootServices => ["bs", "boot", "boot_services", "efi_boot_services"]
  | .smmServices =>
    ["smm", "smst", "smm_services", "_efi_smm_system_table2", "efi_smm_system_table2"]

/-- A name in lower case, with underscores for hyphens. Letters outside ASCII are left
alone: none of them is a letter of a spelling in another case. -/
def normalize (name : List Char) : String :=
  String.ofList (name.map fun c => if c = '-' then '_' else c.toLower)

/-- The kind of a name. -/
def parse? (name : List Char) : Option ServiceTableKind :=
  all.find? fun kind => kind.spellings.contains (normalize name)

end ServiceTableKind
end UefiTyping
