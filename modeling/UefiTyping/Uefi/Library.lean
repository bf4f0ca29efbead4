import UefiTyping.TypeDatabase.Basic

/-!
# UEFI type library

The types that firmware code and its service tables are made of. The library is a list
of definitions for a pointer size; loading makes them one after another in a database,
so that each struct is laid out with what the database holds at that point.
-/
namespace UefiTyping.Uefi

/-! ## Type names of the service tables -/

/-- The name of the boot services table. -/
def bootServicesName : String := "EFI_BOOT_SERVICES"

/-- The name of the SMM system table. -/
def smmSystemTableName : String := "_EFI_SMM_SYSTEM_TABLE2"

/-! ## Field types -/

/-- A pointer to the type of a name. -/
def pointerTo (name : String) : CType := .pointer (.named name)

/-- A pointer to a service: a function that takes the parameters and returns a status. -/
def service (params : List (String × CType)) : CType :=
  .pointer (.function ⟨.named "EFI_STATUS", params.map fun param => ⟨param.1, param.2⟩⟩)

/-- Fields that point to services whose parameters are not described. -/
def services (names : List String) : List (String × CType) :=
  names.map fun name => (name, service [])

/-- The service that asks a handle for a protocol. -/
def handleService : CType :=
  service [("Handle", .named "EFI_HANDLE"), ("Protocol", pointerTo "EFI_GUID"),
    ("Interface", .pointer .voidPointer)]

/-- The service that opens a protocol of a handle for an agent. -/
def openService : CType :=
  service [("Handle", .named "EFI_HANDLE"), ("Protocol", pointerTo "EFI_GUID"),
    ("Interface", .pointer .voidPointer), ("AgentHandle", .named "EFI_HANDLE"),
    ("ControllerHandle", .named "EFI_HANDLE"), ("Attributes", .named "UINT32")]

/-- The service that finds the first interface of a protocol. -/
def locateService : CType :=
  service [("Protocol", pointerTo "EFI_GUID"), ("Registration", .voidPointer),
    ("Interface", .pointer .voidPointer)]

/-! ## Structs -/

/-- Fields of a GUID. -/
def guidFields : List (String × CType) :=
  [("Data1", .named "UINT32"), ("Data2", .named "UINT16"), ("Data3", .named "UINT16"),
   ("Data4", .array (.named "UINT8") (some 8))]

/-- The header that every system table starts with. -/
def tableHeader : List (String × CType) :=
  [("Signature", .named "UINT64"), ("Revision", .named "UINT32"),
   ("HeaderSize", .named "UINT32"), ("CRC32", .named "UINT32"), ("Reserved", .named "UINT32")]

/-- The boot services table: task priority, memory, events and timers, protocol handlers,
images, miscellaneous, driver support, opening and closing of protocols, library calls,
and memory utilities. -/
def bootServices : List (String × CType) :=
  [("Hdr", .named "EFI_TABLE_HEADER")] ++
  services ["RaiseTPL", "RestoreTPL", "AllocatePages", "FreePages", "GetMemoryMap",
    "AllocatePool", "FreePool", "CreateEvent", "SetTimer", "WaitForEvent", "SignalEvent",
    "CloseEvent", "CheckEvent", "InstallProtocolInterface", "ReinstallProtocolInterface",
    "UninstallProtocolInterface"] ++
  [("HandleProtocol", handleService), ("Reserved", .voidPointer)] ++
  services ["RegisterProtocolNotify", "LocateHandle", "LocateDevicePath",
    "InstallConfigurationTable", "LoadImage", "StartImage", "Exit", "UnloadImage",
    "ExitBootServices", "GetNextMonotonicCount", "Stall", "SetWatchdogTimer",
    "ConnectController", "DisconnectController"] ++
  [("OpenProtocol", openService)] ++
  services ["CloseProtocol", "OpenProtocolInformation", "ProtocolsPerHandle",
    "LocateHandleBuffer"] ++
  [("LocateProtocol", locateService)] ++
  services ["InstallMultipleProtocolInterfaces", "UninstallMultipleProtocolInterfaces",
    "CalculateCrc32", "CopyMem", "SetMem", "CreateEventEx"]

/-- Read and write access to one kind of address space in SMM. -/
def smmIoAccess : List (String × CType) :=
  services ["Read", "Write"]

/-- Memory and port access in SMM. -/
def smmCpuIo : List (String × CType) :=
  [("Mem", .named "EFI_SMM_IO_ACCESS2"), ("Io", .named "EFI_SMM_IO_ACCESS2")]

/-- The SMM system table. -/
def smmSystemTable : List (String × CType) :=
  [("Hdr", .named "EFI_TABLE_HEADER"), ("SmmFirmwareVendor", pointerTo "CHAR16"),
   ("SmmFirmwareRevision", .named "UINT32")] ++
  services ["SmmInstallConfigurationTable"] ++
  [("SmmIo", .named "EFI_SMM_CPU_IO2_PROTOCOL")] ++
  services ["SmmAllocatePool", "SmmFreePool", "SmmAllocatePages", "SmmFreePages",
    "SmmStartupThisAp"] ++
  [("CurrentlyExecutingCpu", .named "UINTN"), ("NumberOfCpus", .named "UINTN"),
   ("CpuSaveStateSize", pointerTo "UINTN"), ("CpuSaveState", .pointer .voidPointer),
   ("NumberOfTableEntries", .named "UINTN"), ("SmmConfigurationTable", .voidPointer)] ++
  services ["SmmInstallProtocolInterface", "SmmUninstallProtocolInterface"] ++
  [("SmmHandleProtocol", handleService)] ++
  services ["SmmRegisterProtocolNotify", "SmmLocateHandle"] ++
  [("SmmLocateProtocol", locateService)] ++
  services ["SmiManage", "SmiHandlerRegister", "SmiHandlerUnRegister"]

/-- A node of a device path. -/
def devicePath : List (String × CType) :=
  [("Type", .named "UINT8"), ("SubType", .named "UINT8"),
   ("Length", .array (.named "UINT8") (some 2))]

/-- What is known about a loaded image. -/
def loadedImage : List (String × CType) :=
  [("Revision", .named "UINT32"), ("ParentHandle", .named "EFI_HANDLE"),
   ("SystemTable", .voidPointer), ("DeviceHandle", .named "EFI_HANDLE"),
   ("FilePath", pointerTo "EFI_DEVICE_PATH_PROTOCOL"), ("Reserved", .voidPointer),
   ("LoadOptionsSize", .named "UINT32"), ("LoadOptions", .voidPointer),
   ("ImageBase", .voidPointer), ("ImageSize", .named "UINT64"),
   ("ImageCodeType", .named "UINT32"), ("ImageDataType", .named "UINT32")] ++
  services ["Unload"]

/-- Text output to a console. -/
def simpleTextOutput : List (String × CType) :=
  services ["Reset", "OutputString", "TestString", "QueryMode", "SetMode", "SetAttribute",
    "ClearScreen", "SetCursorPosition", "EnableCursor"] ++
  [("Mode", .voidPointer)]

/-- Access to a block device. -/
def blockIo : List (String × CType) :=
  [("Revision", .named "UINT64"), ("Media", .voidPointer)] ++
  services ["Reset", "ReadBlocks", "WriteBlocks", "FlushBlocks"]

/-- Access to a file system. -/
def simpleFileSystem : List (String × CType) :=
  [("Revision", .named "UINT64")] ++
  services ["OpenVolume"]

/-- Access to a frame buffer. -/
def graphicsOutput : List (String × CType) :=
  services ["QueryMode", "SetMode", "Blt"] ++
  [("Mode", .voidPointer)]

/-- Where the SMM system table is found. -/
def smmBase : List (String × CType) :=
  services ["InSmm", "GetSmstLocation"]

/-- Registration of software SMI handlers. -/
def smmSwDispatch : List (String × CType) :=
  services ["Register", "UnRegister"] ++
  [("MaximumSwiValue", .named "UINTN")]

/-- The system table. -/
def systemTable : List (String × CType) :=
  [("Hdr", .named "EFI_TABLE_HEADER"), ("FirmwareVendor", pointerTo "CHAR16"),
   ("FirmwareRevision", .named "UINT32"), ("ConsoleInHandle", .named "EFI_HANDLE"),
   ("ConIn", .voidPointer), ("ConsoleOutHandle", .named "EFI_HANDLE"),
   ("ConOut", pointerTo "EFI_SIMPLE_TEXT_OUTPUT_PROTOCOL"),
   ("StandardErrorHandle", .named "EFI_HANDLE"),
   ("StdErr", pointerTo "EFI_SIMPLE_TEXT_OUTPUT_PROTOCOL"), ("RuntimeServices", .voidPointer),
   ("BootServices", pointerTo "EFI_BOOT_SERVICES"), ("NumberOfTableEntries", .named "UINTN"),
   ("ConfigurationTable", .voidPointer)]

/-! ## The library -/

/-- One definition of the library. -/
inductive Definition
  | synonym (name : String) (target : CType)
  | struct (name : String) (fields : List (String × CType))
deriving Repr

/-- Makes a definition in a database. -/
def Definition.load (db : TypeDatabase) : Definition → TypeDatabase
  | .synonym name target => db.addSynonym name target
  | .struct name fields => db.addStruct name fields

/-- Integers of fixed size, integers of the size of a pointer, and what is built on them. -/
def baseSynonyms (pointerSize : Nat) : List (String × CType) :=
  [("INT8", .int 1 true), ("UINT8", .int 1 false), ("INT16", .int 2 true),
   ("UINT16", .int 2 false), ("INT32", .int 4 true), ("UINT32", .int 4 false),
   ("INT64", .int 8 true), ("UINT64", .int 8 false),
   ("INTN", .int pointerSize true), ("UINTN", .int pointerSize false),
   ("BOOLEAN", .named "UINT8"), ("CHAR8", .named "UINT8"), ("CHAR16", .named "UINT16"),
   ("EFI_STATUS", .named "UINTN"), ("EFI_TPL", .named "UINTN"),
   ("EFI_HANDLE", .voidPointer), ("EFI_EVENT", .voidPointer),
   ("EFI_PHYSICAL_ADDRESS", .named "UINT64")]

/-- The typedefs that the library begins with. -/
def typedefs (pointerSize : Nat) : List Definition :=
  (baseSynonyms pointerSize).map fun entry => .synonym entry.1 entry.2

/-- The definitions behind the typedefs, all of them structs but one. -/
def structs : List Definition :=
  [.struct "EFI_GUID" guidFields,
   .struct "EFI_TABLE_HEADER" tableHeader,
   .struct bootServicesName bootServices,
   .struct "EFI_SMM_IO_ACCESS2" smmIoAccess,
   .struct "EFI_SMM_CPU_IO2_PROTOCOL" smmCpuIo,
   .struct smmSystemTableName smmSystemTable,
   .synonym "EFI_SMM_SYSTEM_TABLE2" (.named smmSystemTableName),
   .struct "EFI_DEVICE_PATH_PROTOCOL" devicePath,
   .struct "EFI_LOADED_IMAGE_PROTOCOL" loadedImage,
   .struct "EFI_SIMPLE_TEXT_OUTPUT_PROTOCOL" simpleTextOutput,
   .struct "EFI_BLOCK_IO_PROTOCOL" blockIo,
   .struct "EFI_SIMPLE_FILE_SYSTEM_PROTOCOL" simpleFileSystem,
   .struct "EFI_GRAPHICS_OUTPUT_PROTOCOL" graphicsOutput,
   .struct "EFI_SMM_BASE2_PROTOCOL" smmBase,
   .struct "EFI_SMM_SW_DISPATCH2_PROTOCOL" smmSwDispatch,
   .struct "EFI_SYSTEM_TABLE" systemTable]

/-- The definitions of the library, in order. -/
def library (pointerSize : Nat) : List Definition := typedefs pointerSize ++ structs

/-- Loads the library into a database, over what it already holds. -/
def load (db : TypeDatabase) : TypeDatabase := (library db.pointerSize).foldl Definition.load db

/-- The database of the library for x64 firmware. -/
def database : TypeDatabase := load (.empty TypeDatabase.pointerSizeX64)

end UefiTyping.Uefi
