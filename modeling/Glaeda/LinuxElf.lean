import Glaeda.Identity
import Glaeda.Json

/-!
# The dependencies of a Linux executable

The runtime evidence of a worker names the libraries its executables need.
They are read from the bytes of the file: the header, the program headers –
the segments a loader would map – and, through the segment that lists them,
the dynamic entries and the strings these point to.

Addresses are translated to places in the file by `mappedFileOffset`, which
wants exactly one load segment whose file bytes hold the whole range.
-/

namespace Glaeda

open Checked

/-- The processors a worker runs on. -/
inductive PersonalWorkerRuntimeArchitecture
  | aarch64 | x86_64
  deriving DecidableEq, Repr

/-- Whether an executable needs a loader. -/
inductive LinuxRuntimeElfLinkage
  | static | dynamic
  deriving DecidableEq, Repr

/-- The reviewed loaders. -/
inductive LinuxRuntimeDynamicLoader
  | aarch64Gnu | x86_64Gnu
  deriving DecidableEq, Repr

/-- Where a loader is installed. -/
def LinuxRuntimeDynamicLoader.expectedPath : LinuxRuntimeDynamicLoader → String
  | .aarch64Gnu => "/lib/ld-linux-aarch64.so.1"
  | .x86_64Gnu => "/lib64/ld-linux-x86-64.so.2"

/-- The loader of a processor. -/
def PersonalWorkerRuntimeArchitecture.loader :
    PersonalWorkerRuntimeArchitecture → LinuxRuntimeDynamicLoader
  | .aarch64 => .aarch64Gnu
  | .x86_64 => .x86_64Gnu

/-- Where a loader looks for libraries. -/
inductive LinuxRuntimeDynamicSearchPolicy
  | default | systemdPrivate
  deriving DecidableEq, Repr

/-- The run path a policy allows. -/
def LinuxRuntimeDynamicSearchPolicy.expectedRunpath :
    LinuxRuntimeDynamicSearchPolicy → PersonalWorkerRuntimeArchitecture → Option String
  | .default, _ => none
  | .systemdPrivate, .aarch64 => some "/usr/lib/aarch64-linux-gnu/systemd"
  | .systemdPrivate, .x86_64 => some "/usr/lib/x86_64-linux-gnu/systemd"

/-- The kinds of refusal. -/
inductive LinuxRuntimeElfErrorKind
  | size | format | architecture | unsafeRuntimeSearch
  deriving DecidableEq, Repr

/-- A refusal, with its code and text. -/
structure LinuxRuntimeElfError where
  kind : LinuxRuntimeElfErrorKind
  code : String
  message : String
  deriving DecidableEq, Repr

/-- What an executable depends on. -/
structure LinuxRuntimeElfDependency where
  architecture : PersonalWorkerRuntimeArchitecture
  linkage : LinuxRuntimeElfLinkage
  loader : Option LinuxRuntimeDynamicLoader
  dynamicSearch : Option LinuxRuntimeDynamicSearchPolicy
  neededLibraries : List String
  deriving DecidableEq, Repr

/-- A file that is a loader itself. -/
structure LinuxRuntimeLoaderObject where
  architecture : PersonalWorkerRuntimeArchitecture
  loader : LinuxRuntimeDynamicLoader
  deriving DecidableEq, Repr

namespace LinuxRuntimeElf

/-- Something is too large, or not all there. -/
def sizeError : LinuxRuntimeElfError :=
  ⟨.size, "runtime_elf_size", "Linux runtime ELF evidence exceeds its canonical bounds"⟩

/-- The bytes do not follow the format. -/
def formatError : LinuxRuntimeElfError :=
  ⟨.format, "runtime_elf_format", "Linux runtime ELF evidence is malformed or noncanonical"⟩

/-- The file is for another processor. -/
def architectureError : LinuxRuntimeElfError :=
  ⟨.architecture, "runtime_elf_architecture", "Linux runtime ELF architecture does not match"⟩

/-- The file would search elsewhere. -/
def unsafeSearchError : LinuxRuntimeElfError :=
  ⟨.unsafeRuntimeSearch, "runtime_elf_unsafe_search",
    "Linux runtime ELF selects an unreviewed runtime search path"⟩

/-- The largest file that is read. -/
def linuxRuntimeElfMaxBytes : Nat := 134217728
/-- The size of the file header. -/
def elfHeaderBytes : Nat := 64
/-- The size of a program header. -/
def programHeaderBytes : Nat := 56
/-- How many segments a file may list. -/
def maxProgramHeaders : Nat := 128
/-- The largest dynamic segment. -/
def maxDynamicBytes : Nat := 1048576
/-- The largest string table. -/
def maxStringTableBytes : Nat := 4194304
/-- How many libraries a file may need. -/
def maxNeededLibraries : Nat := 256
/-- The longest loader path. -/
def maxInterpreterBytes : Nat := 4096
/-- The longest run path. -/
def maxRunpathBytes : Nat := 4096
/-- The longest library name. -/
def maxLibraryNameBytes : Nat := 255

/-- The type of an executable. -/
def etExec : Nat := 2
/-- The type of a shared object. -/
def etDyn : Nat := 3
/-- The machine of x86-64. -/
def emX86_64 : Nat := 62
/-- The machine of AArch64. -/
def emAarch64 : Nat := 183
/-- A segment that is mapped. -/
def ptLoad : Nat := 1
/-- The segment of dynamic entries. -/
def ptDynamic : Nat := 2
/-- The segment with the loader path. -/
def ptInterp : Nat := 3
/-- The segment about the stack. -/
def ptGnuStack : Nat := 0x6474e551
/-- The segment is executable. -/
def pfX : Nat := 1
/-- The segment is writable. -/
def pfW : Nat := 2
/-- The end of the entries. -/
def dtNull : Int := 0
/-- A needed library. -/
def dtNeeded : Int := 1
/-- The address of the strings. -/
def dtStrtab : Int := 5
/-- The size of the strings. -/
def dtStrsz : Int := 10
/-- An old run path. -/
def dtRpath : Int := 15
/-- Relocations in the code. -/
def dtTextrel : Int := 22
/-- Flags of the object. -/
def dtFlags : Int := 30
/-- The run path. -/
def dtRunpath : Int := 29
/-- A configuration file. -/
def dtConfig : Int := 0x6ffffefa
/-- An auditor of the dependencies. -/
def dtDepaudit : Int := 0x6ffffefb
/-- An auditor. -/
def dtAudit : Int := 0x6ffffefc
/-- More flags of the object. -/
def dtFlags1 : Int := 0x6ffffffb
/-- An auxiliary library. -/
def dtAuxiliary : Int := 0x7ffffffd
/-- A filtered library. -/
def dtFilter : Int := 0x7fffffff
/-- The flag for relocations in the code. -/
def dfTextrel : Nat := 0x4
/-- The flag against the default paths. -/
def df1Nodeflib : Nat := 0x800

/-! ## Reading bytes

Offsets and lengths are 64-bit numbers on every target of the worker, so the
conversions to the machine's own size never fail. -/

variable (bytes : List UInt8)

/-- The bytes of a range, if they are there. -/
def slice (start stop : Nat) : Option (List UInt8) :=
  if start ≤ stop ∧ stop ≤ bytes.length then some ((bytes.drop start).take (stop - start))
  else none

theorem slice_eq_some {bytes read : List UInt8} {start stop : Nat}
    (h : slice bytes start stop = some read) :
    start ≤ stop ∧ stop ≤ bytes.length ∧ read = (bytes.drop start).take (stop - start) := by
  unfold slice at h
  split at h
  · rename_i hle
    exact ⟨hle.1, hle.2, (Option.some.inj h).symm⟩
  · cases h

/-- The number with these bytes, the lowest first. -/
def fromLeBytes : Nat :=
  bytes.foldr (fun byte rest => byte.toNat + 256 * rest) 0

/-- The same bytes as a signed number. -/
def i64FromLeBytes : Int :=
  if fromLeBytes bytes < 2 ^ 63 then fromLeBytes bytes else fromLeBytes bytes - 2 ^ 64

/-- The number of some bytes at an offset. -/
def readLe (width : Nat) (bytes : List UInt8) (offset : Nat) : Except LinuxRuntimeElfError Nat :=
  do
  let value ← okOr (slice bytes offset (offset + width)) sizeError
  return fromLeBytes value

/-- A number of two bytes. -/
def readU16 : List UInt8 → Nat → Except LinuxRuntimeElfError Nat := readLe 2
/-- A number of four bytes. -/
def readU32 : List UInt8 → Nat → Except LinuxRuntimeElfError Nat := readLe 4
/-- A number of eight bytes. -/
def readU64 : List UInt8 → Nat → Except LinuxRuntimeElfError Nat := readLe 8

/-- The slice from an offset on, of a length, with the end computed in 64
bits. -/
def sliceAt (start length : Nat) : Except LinuxRuntimeElfError (List UInt8) :=
  do
  let stop ← okOr (checkedAdd u64Size start length) sizeError
  okOr (slice bytes start stop) sizeError

theorem sliceAt_eq_ok {bytes read : List UInt8} {start length : Nat}
    (h : sliceAt bytes start length = .ok read) :
    start + length ≤ bytes.length ∧ read = (bytes.drop start).take length := by
  unfold sliceAt at h
  simp only [bind_eq_ok, okOr_eq_ok, checkedAdd_eq_some] at h
  obtain ⟨stop, ⟨_, rfl⟩, h⟩ := h
  obtain ⟨_, hle, rfl⟩ := slice_eq_some h
  exact ⟨hle, by rw [Nat.add_sub_cancel_left]⟩

/-! ## Program headers -/

/-- One segment of the file. -/
structure ProgramHeader where
  kind : Nat
  flags : Nat
  offset : Nat
  virtualAddress : Nat
  fileSize : Nat
  memorySize : Nat
  alignment : Nat
  deriving DecidableEq, Repr

namespace ProgramHeader

/-- Read one program header. -/
def parse (offset : Nat) : Except LinuxRuntimeElfError ProgramHeader := do
  return {
    kind := ← readU32 bytes offset
    flags := ← readU32 bytes (offset + 4)
    offset := ← readU64 bytes (offset + 8)
    virtualAddress := ← readU64 bytes (offset + 16)
    fileSize := ← readU64 bytes (offset + 32)
    memorySize := ← readU64 bytes (offset + 40)
    alignment := ← readU64 bytes (offset + 48) }

variable (header : ProgramHeader)

/-- The segment lies within the file. -/
def validateFileRange (fileLength : Nat) : Except LinuxRuntimeElfError Unit := do
  refuseIf (header.flags &&& 0xfffffff8 ≠ 0) formatError
  let stop ← okOr (checkedAdd u64Size header.offset header.fileSize) sizeError
  refuseIf (fileLength < stop) sizeError

/-- A segment that can be mapped: not writable code, and aligned. -/
def validateLoad : Except LinuxRuntimeElfError Unit :=
  refuseIf (header.memorySize < header.fileSize
    ∨ header.flags &&& (pfW ||| pfX) = (pfW ||| pfX)
    ∨ (¬ (header.alignment = 0 ∨ header.alignment = 1)
        ∧ 2 ^ header.alignment.log2 ≠ header.alignment)
    ∨ (1 < header.alignment
        ∧ header.offset % header.alignment ≠ header.virtualAddress % header.alignment))
    formatError

/-- The bytes of the segment in the file. -/
def fileSlice (bytes : List UInt8) : Except LinuxRuntimeElfError (List UInt8) :=
  sliceAt bytes header.offset header.fileSize

/-- **A load segment a loader can place**: its file bytes are in the file and
fit in its memory. -/
structure Placeable (header : ProgramHeader) (bytes : List UInt8) : Prop where
  inFile : header.offset + header.fileSize ≤ bytes.length
  fits : header.fileSize ≤ header.memorySize

theorem placeable_of_validate {header : ProgramHeader} {bytes : List UInt8}
    (hr : header.validateFileRange bytes.length = .ok ())
    (hl : header.validateLoad = .ok ()) : header.Placeable bytes := by
  unfold validateFileRange at hr
  simp only [↓guard_bind_eq_ok, bind_eq_ok, okOr_eq_ok, checkedAdd_eq_some, refuseIf_eq_ok]
    at hr
  obtain ⟨_, stop, ⟨_, rfl⟩, hs⟩ := hr
  rw [validateLoad, refuseIf_eq_ok, not_or] at hl
  exact ⟨Nat.le_of_not_lt hs, Nat.le_of_not_lt hl.1⟩

end ProgramHeader

/-! ## The segments of a file -/

/-- The segments collected so far. -/
structure Segments where
  loads : List ProgramHeader := []
  interpreter : Option ProgramHeader := none
  dynamic : Option ProgramHeader := none
  gnuStack : Option ProgramHeader := none

/-- The program header of an index. -/
def headerAt (index : Nat) : Except LinuxRuntimeElfError ProgramHeader :=
  ProgramHeader.parse bytes (elfHeaderBytes + index * programHeaderBytes)

/-- One turn of the loop over the program headers. -/
def collect (segments : Segments) (index : Nat) : Except LinuxRuntimeElfError Segments := do
  let header ← headerAt bytes index
  header.validateFileRange bytes.length
  if header.kind = ptLoad then do
    header.validateLoad
    return { segments with loads := segments.loads ++ [header] }
  else if header.kind = ptInterp then do
    refuseIf segments.interpreter.isSome formatError
    return { segments with interpreter := some header }
  else if header.kind = ptDynamic then do
    refuseIf segments.dynamic.isSome formatError
    return { segments with dynamic := some header }
  else if header.kind = ptGnuStack then do
    refuseIf (header.flags &&& pfX ≠ 0) formatError
    refuseIf segments.gnuStack.isSome formatError
    return { segments with gnuStack := some header }
  else return segments

/-- What the headers say. -/
structure ParsedRuntimeElf where
  elfType : Nat
  architecture : PersonalWorkerRuntimeArchitecture
  loads : List ProgramHeader
  interpreter : Option ProgramHeader
  dynamic : Option ProgramHeader

/-- The segment holds the entry point. -/
def matchesEntry (entryPoint : Nat) (load : ProgramHeader) : Bool :=
  load.flags &&& pfX ≠ 0
    ∧ (checkedAdd u64Size load.virtualAddress load.memorySize).any fun stop =>
        load.virtualAddress ≤ entryPoint ∧ entryPoint < stop

/-- The processor of a machine number. -/
def architectureOf (machine : Nat) :
    Except LinuxRuntimeElfError PersonalWorkerRuntimeArchitecture :=
  if machine = emAarch64 then .ok .aarch64
  else if machine = emX86_64 then .ok .x86_64
  else .error architectureError

/-- Read the headers of a file. -/
def parseRuntimeElf (expectedArchitecture : PersonalWorkerRuntimeArchitecture) :
    Except LinuxRuntimeElfError ParsedRuntimeElf := do
  refuseIf (bytes.length < elfHeaderBytes ∨ linuxRuntimeElfMaxBytes < bytes.length) sizeError
  refuseIf (bytes.take 4 ≠ [0x7f, 0x45, 0x4c, 0x46]
    ∨ bytes[4]? ≠ some 2 ∨ bytes[5]? ≠ some 1 ∨ bytes[6]? ≠ some 1
    ∨ (bytes[7]? ≠ some 0 ∧ bytes[7]? ≠ some 3)
    ∨ bytes[8]? ≠ some 0
    ∨ ((bytes.drop 9).take 7).any (· ≠ 0)) formatError
  let elfType ← readU16 bytes 16
  refuseIf (elfType ≠ etExec ∧ elfType ≠ etDyn) formatError
  let machine ← readU16 bytes 18
  let architecture ← architectureOf machine
  let entryPoint ← readU64 bytes 24
  refuseIf (architecture ≠ expectedArchitecture) architectureError
  refuseIf ((← readU32 bytes 20) ≠ 1
    ∨ entryPoint = 0
    ∨ (← readU64 bytes 32) ≠ elfHeaderBytes
    ∨ (← readU32 bytes 48) ≠ 0
    ∨ (← readU16 bytes 52) ≠ elfHeaderBytes
    ∨ (← readU16 bytes 54) ≠ programHeaderBytes) formatError
  let programHeaderCount ← readU16 bytes 56
  refuseIf (programHeaderCount = 0 ∨ maxProgramHeaders < programHeaderCount) formatError
  refuseIf (bytes.length < elfHeaderBytes + programHeaderCount * programHeaderBytes) sizeError
  let segments ← (List.range programHeaderCount).foldlM (collect bytes) {}
  refuseIf (segments.loads.isEmpty ∨ segments.gnuStack.isNone) formatError
  refuseIf (segments.loads.countP (matchesEntry entryPoint) ≠ 1) formatError
  return ⟨elfType, architecture, segments.loads, segments.interpreter, segments.dynamic⟩

/-! ## Addresses -/

namespace ProgramHeader

/-- The file bytes of the segment hold the whole range of addresses. -/
def holds (load : ProgramHeader) (address addressEnd : Nat) : Bool :=
  (checkedAdd u64Size load.virtualAddress load.fileSize).any fun fileVirtualEnd =>
    load.virtualAddress ≤ address ∧ addressEnd ≤ fileVirtualEnd

theorem holds_iff {load : ProgramHeader} {address addressEnd : Nat} :
    load.holds address addressEnd ↔ load.virtualAddress + load.fileSize < u64Size
      ∧ load.virtualAddress ≤ address ∧ addressEnd ≤ load.virtualAddress + load.fileSize := by
  unfold holds checkedAdd
  split
  · rename_i h
    rw [Option.any_some, decide_eq_true_iff]
    exact (and_iff_right h).symm
  · rename_i h
    exact iff_of_false (by simp) (fun ha => h ha.1)

end ProgramHeader

variable (loads : List ProgramHeader)

/-- Where in the file an address is. -/
def mappedFileOffset (address length : Nat) : Except LinuxRuntimeElfError Nat := do
  let addressEnd ← okOr (checkedAdd u64Size address length) sizeError
  match loads.filter (·.holds address addressEnd) with
  | [load] => okOr (checkedAdd u64Size load.offset (address - load.virtualAddress)) sizeError
  | _ => .error formatError

/-- The bytes at an address. -/
def virtualFileSlice (address length : Nat) : Except LinuxRuntimeElfError (List UInt8) := do
  let offset ← mappedFileOffset loads address length
  sliceAt bytes offset length

/-! ## Dynamic entries -/

/-- What the dynamic entries say. -/
structure DynamicValues where
  stringTableAddress : Option Nat := none
  stringTableSize : Option Nat := none
  runpath : Option Nat := none
  needed : List Nat := []
  deriving DecidableEq, Repr

/-- A value that may be given once. -/
def setOnce (slot : Option Nat) (value : Nat) : Except LinuxRuntimeElfError (Option Nat) := do
  refuseIf slot.isSome formatError
  return some value

/-- One turn of the loop over the entries, which have 16 bytes each. -/
def dynamicEntry (state : DynamicValues × Bool) (entry : List UInt8) :
    Except LinuxRuntimeElfError (DynamicValues × Bool) := do
  let tag := i64FromLeBytes (entry.take 8)
  let value := fromLeBytes (entry.drop 8)
  let (parsed, terminated) := state
  if terminated then do
    refuseIf (tag ≠ dtNull ∨ value ≠ 0) formatError
    return (parsed, true)
  else if tag = dtNull then do
    refuseIf (value ≠ 0) formatError
    return (parsed, true)
  else if tag = dtNeeded then do
    refuseIf (parsed.needed.length = maxNeededLibraries) sizeError
    return ({ parsed with needed := parsed.needed ++ [value] }, false)
  else if tag = dtStrtab then do
    return ({ parsed with
      stringTableAddress := ← setOnce parsed.stringTableAddress value }, false)
  else if tag = dtStrsz then do
    return ({ parsed with stringTableSize := ← setOnce parsed.stringTableSize value }, false)
  else if tag = dtRunpath then do
    return ({ parsed with runpath := ← setOnce parsed.runpath value }, false)
  else if tag ∈ [dtRpath, dtConfig, dtDepaudit, dtAudit, dtAuxiliary, dtFilter] then
    .error unsafeSearchError
  else if tag = dtTextrel then .error formatError
  else if tag = dtFlags ∧ value &&& dfTextrel ≠ 0 then .error formatError
  else if tag = dtFlags1 ∧ value &&& df1Nodeflib ≠ 0 then .error unsafeSearchError
  else return (parsed, false)

/-- The entries, of 16 bytes each. -/
def chunksExact (values : List UInt8) : List (List UInt8) :=
  (List.range (values.length / 16)).map fun index => (values.drop (index * 16)).take 16

/-- The part of `parseDynamic` that looks only at the bytes of the entries. -/
def readDynamic (values : List UInt8) : Except LinuxRuntimeElfError DynamicValues := do
  let (parsed, terminated) ← (chunksExact values).foldlM dynamicEntry ({}, false)
  refuseIf (¬ terminated) formatError
  if parsed.needed.isEmpty ∧ parsed.runpath.isNone then
    refuseIf (parsed.stringTableAddress.isSome ≠ parsed.stringTableSize.isSome) formatError
  else
    refuseIf (parsed.stringTableAddress.isNone ∨ parsed.stringTableSize.isNone) formatError
  return parsed

/-- Read the dynamic segment. -/
def parseDynamic (header : ProgramHeader) (loads : List ProgramHeader) :
    Except LinuxRuntimeElfError DynamicValues := do
  refuseIf (header.fileSize = 0 ∨ maxDynamicBytes < header.fileSize
    ∨ header.fileSize % 16 ≠ 0 ∨ header.memorySize < header.fileSize) formatError
  let offset ← mappedFileOffset loads header.virtualAddress header.fileSize
  refuseIf (offset ≠ header.offset) formatError
  let values ← header.fileSlice bytes
  let parsed ← readDynamic values
  loads.forM fun load => load.validateLoad
  return parsed

/-! ## Strings -/

variable (stringTable : List UInt8)

/-- One string of the table. -/
def dynamicString (offset maximumLength : Nat) : Except LinuxRuntimeElfError (List UInt8) := do
  let tail ← okOr (slice stringTable offset stringTable.length) formatError
  refuseIf (offset = 0 ∨ stringTable[offset - 1]? ≠ some 0) formatError
  let length ← okOr (tail.findIdx? (· = 0)) formatError
  refuseIf (maximumLength < length) sizeError
  return tail.take length

/-- ASCII letters and digits, and `.`, `_`, `+`, `-`. -/
def isLibraryNameByte (byte : UInt8) : Bool :=
  (48 ≤ byte ∧ byte ≤ 57) ∨ (65 ≤ byte ∧ byte ≤ 90) ∨ (97 ≤ byte ∧ byte ≤ 122)
    ∨ byte = 46 ∨ byte = 95 ∨ byte = 43 ∨ byte = 45

/-- One turn of the loop over the needed names. -/
def neededName (names : List String) (neededOffset : Nat) :
    Except LinuxRuntimeElfError (List String) := do
  let name ← dynamicString stringTable neededOffset maxLibraryNameBytes
  refuseIf (name.isEmpty ∨ ¬ name.all isLibraryNameByte) unsafeSearchError
  let name ← okOr (Json.textOfUtf8 name) formatError
  refuseIf (name ∈ names) formatError
  return names ++ [name]

/-- The policy a run path stands for. -/
def searchPolicy (architecture : PersonalWorkerRuntimeArchitecture) :
    Option Nat → Except LinuxRuntimeElfError LinuxRuntimeDynamicSearchPolicy
  | none => .ok .default
  | some offset => do
    let runpath ← dynamicString stringTable offset maxRunpathBytes
    let runpath ← okOr (Json.textOfUtf8 runpath) formatError
    let policy := LinuxRuntimeDynamicSearchPolicy.systemdPrivate
    refuseIf (policy.expectedRunpath architecture ≠ some runpath) unsafeSearchError
    return policy

/-- The names and the search policy, from a string table found at an address
by whatever means. -/
def resolveStrings (stringTableAt : Nat → Nat → Except LinuxRuntimeElfError (List UInt8))
    (architecture : PersonalWorkerRuntimeArchitecture) (dynamic : DynamicValues) :
    Except LinuxRuntimeElfError (List String × LinuxRuntimeDynamicSearchPolicy) :=
  match dynamic.stringTableAddress, dynamic.stringTableSize with
  | some address, some size => do
    refuseIf (size = 0 ∨ maxStringTableBytes < size) sizeError
    let stringTable ← stringTableAt address size
    refuseIf (stringTable.head? ≠ some 0 ∨ stringTable.getLast? ≠ some 0) formatError
    let names ← dynamic.needed.foldlM (neededName stringTable) []
    let dynamicSearch ← searchPolicy stringTable architecture dynamic.runpath
    return (names, dynamicSearch)
  | none, none =>
    if dynamic.needed.isEmpty ∧ dynamic.runpath.isNone then .ok ([], .default)
    else .error formatError
  | _, _ => .error formatError

/-- The names and the policy, from the strings in the file. -/
def resolveDynamicStrings (loads : List ProgramHeader) :
    PersonalWorkerRuntimeArchitecture → DynamicValues →
      Except LinuxRuntimeElfError (List String × LinuxRuntimeDynamicSearchPolicy) :=
  resolveStrings (virtualFileSlice bytes loads)

/-- Read the path of the loader. -/
def parseInterpreter (header : ProgramHeader) (architecture : PersonalWorkerRuntimeArchitecture) :
    Except LinuxRuntimeElfError LinuxRuntimeDynamicLoader := do
  let value ← header.fileSlice bytes
  refuseIf (value.length < 2 ∨ maxInterpreterBytes < value.length ∨ value.getLast? ≠ some 0)
    formatError
  let path := value.dropLast
  refuseIf (path.contains 0) formatError
  let path ← okOr (Json.textOfUtf8 path) formatError
  refuseIf (path ≠ architecture.loader.expectedPath) unsafeSearchError
  return architecture.loader

/-! ## The two entry points -/

variable (expectedArchitecture : PersonalWorkerRuntimeArchitecture)

/-- Read what an executable depends on. -/
def parseLinuxRuntimeElfDependency : Except LinuxRuntimeElfError LinuxRuntimeElfDependency := do
  let parsed ← parseRuntimeElf bytes expectedArchitecture
  let loader ← parsed.interpreter.mapM fun header =>
    parseInterpreter bytes header parsed.architecture
  let dynamic ← parsed.dynamic.mapM fun header => parseDynamic bytes header parsed.loads
  let dynamicValues := dynamic.getD {}
  refuseIf (loader.isSome ≠ parsed.dynamic.isSome
    ∨ (loader.isNone ∧ ¬ dynamicValues.needed.isEmpty)) formatError
  match loader with
  | some loader => do
    let (neededLibraries, dynamicSearch) ←
      resolveDynamicStrings bytes parsed.loads parsed.architecture dynamicValues
    return ⟨parsed.architecture, .dynamic, some loader, some dynamicSearch, neededLibraries⟩
  | none => return ⟨parsed.architecture, .static, none, none, []⟩

/-- Read a loader. -/
def parseLinuxRuntimeLoaderObject : Except LinuxRuntimeElfError LinuxRuntimeLoaderObject := do
  let parsed ← parseRuntimeElf bytes expectedArchitecture
  refuseIf (parsed.elfType ≠ etDyn ∨ parsed.interpreter.isSome ∨ parsed.dynamic.isNone)
    formatError
  let dynamic ← parseDynamic bytes (← okOr parsed.dynamic formatError) parsed.loads
  let (needed, dynamicSearch) ←
    resolveDynamicStrings bytes parsed.loads parsed.architecture dynamic
  refuseIf (¬ needed.isEmpty ∨ dynamicSearch ≠ .default) unsafeSearchError
  return ⟨parsed.architecture, parsed.architecture.loader⟩

end LinuxRuntimeElf

end Glaeda
