import Glaeda.Overlay
import Glaeda.LinuxElf

/-!
# The image a loader makes

A loader lays memory out by taking the load segments in file order. Each puts
its file bytes at its address, then zeros up to its memory size, over whatever
an earlier segment put there.

The parser does not look at that image. It resolves a range of addresses
through the one segment whose file bytes hold the whole range, and a segment
that covers only part of the range is not counted. So what the parser reads is
what the image has **as long as no later segment disturbs the range**, and
`sees_image_iff` says that nothing else matters.
-/

namespace Glaeda

open Checked Overlay List Except Option

namespace LinuxRuntimeElf

variable {bytes : List UInt8} {architecture : PersonalWorkerRuntimeArchitecture}
variable {loads : List ProgramHeader} {addr length offset : Nat} {dynamic : DynamicValues}

/-- What one load segment puts in memory. -/
def ProgramHeader.layer (bytes : List UInt8) (load : ProgramHeader) (address : Nat) :
    Option UInt8 :=
  if load.virtualAddress ≤ address ∧ address < load.virtualAddress + load.memorySize then
    if address < load.virtualAddress + load.fileSize then
      bytes[load.offset + (address - load.virtualAddress)]?
    else some 0
  else none

/-- What the segments put into memory. -/
def image (bytes : List UInt8) (loads : List ProgramHeader) : Nat → Option UInt8 :=
  overlay (loads.map (·.layer bytes))

/-! ## The segments the file declares -/

/-- The headers of some indices. -/
def headersAt (bytes : List UInt8) (indices : List Nat) : List ProgramHeader :=
  indices.filterMap fun index => (headerAt bytes index).toOption

/-- The headers of a file. -/
def programHeaders (bytes : List UInt8) : List ProgramHeader :=
  headersAt bytes (List.range ((readU16 bytes 56).toOption.getD 0))

/-- The headers of what is loaded. -/
def loadSegments (bytes : List UInt8) : List ProgramHeader :=
  (programHeaders bytes).filter (·.kind = ptLoad)

/-- The header of the dynamic section. -/
def dynamicSegment (bytes : List UInt8) : Option ProgramHeader :=
  (programHeaders bytes).find? (·.kind = ptDynamic)

/-- One accepted turn of the loop adds the header to what its kind says. -/
theorem collect_eq_ok {segments next : Segments} {index : Nat}
    (h : collect bytes segments index = .ok next) :
    ∃ header, headerAt bytes index = .ok header ∧ (header.kind = ptLoad → header.Placeable bytes)
      ∧ next.loads = segments.loads ++ [header].filter (·.kind = ptLoad)
      ∧ next.dynamic = segments.dynamic.or ([header].find? (·.kind = ptDynamic)) := by
  unfold collect at h
  rw [bind_eq_ok] at h
  obtain ⟨header, hhdr, h⟩ := h
  rw [guard_bind_eq_ok] at h
  obtain ⟨hr, h⟩ := h
  refine ⟨header, hhdr, ?_⟩
  by_cases hl : header.kind = ptLoad
  · rw [if_pos hl, guard_bind_eq_ok, pure_eq_ok_iff] at h
    obtain ⟨hval, rfl⟩ := h
    refine ⟨fun _ => ProgramHeader.placeable_of_validate hr hval, ?_, ?_⟩
    · simp [hl]
    · simp [hl, ptLoad, ptDynamic]
  rw [if_neg hl] at h
  split at h
  · rename_i hi
    rw [guard_bind_eq_ok, pure_eq_ok_iff] at h
    obtain ⟨_, rfl⟩ := h
    simp [hi, ptInterp, ptLoad, ptDynamic]
  split at h
  · rename_i hdyn
    rw [refuseIf_bind_eq_ok, pure_eq_ok_iff] at h
    obtain ⟨hn, rfl⟩ := h
    rw [Bool.not_eq_true, isSome_eq_false_iff, isNone_iff_eq_none] at hn
    simp [hdyn, hn, ptLoad, ptDynamic]
  rename_i hdyn
  split at h
  · rw [guard_bind_eq_ok, guard_bind_eq_ok, pure_eq_ok_iff] at h
    obtain ⟨_, _, rfl⟩ := h
    simp [hl, hdyn]
  · rw [pure_eq_ok_iff] at h
    subst h
    simp [hl, hdyn]

/-- **What the loop collects** is what the headers declare. -/
theorem foldlM_collect {indices : List Nat} {segments final : Segments}
    (h : indices.foldlM (collect bytes) segments = .ok final) :
    (∀ load ∈ (headersAt bytes indices).filter (·.kind = ptLoad), load.Placeable bytes)
      ∧ final.loads = segments.loads ++ (headersAt bytes indices).filter (·.kind = ptLoad)
      ∧ final.dynamic
          = segments.dynamic.or ((headersAt bytes indices).find? (·.kind = ptDynamic)) := by
  induction indices generalizing segments with
  | nil =>
    rw [foldlM_nil, pure_eq_ok_iff] at h
    subst h
    simp [headersAt]
  | cons index indices ih =>
    rw [foldlM_cons, bind_eq_ok] at h
    obtain ⟨next, hn, h⟩ := h
    obtain ⟨header, hhdr, hpl, hld, hdyn⟩ := collect_eq_ok hn
    obtain ⟨hp, hf, hfin⟩ := ih h
    have hc : headersAt bytes (index :: indices) = [header] ++ headersAt bytes indices := by
      show filterMap _ _ = _
      rw [filterMap_cons, hhdr]
      rfl
    rw [hc, filter_append, List.find?_append, hf, hfin, hld, hdyn,
      append_assoc, Option.or_assoc]
    refine ⟨fun load hl => ?_, rfl, rfl⟩
    rw [mem_append, mem_filter, mem_singleton] at hl
    obtain ⟨rfl, hk⟩ | hl := hl
    · exact hpl (of_decide_eq_true hk)
    · exact hp load hl

theorem parseRuntimeElf_eq_ok {parsed : ParsedRuntimeElf}
    (h : parseRuntimeElf bytes architecture = .ok parsed) :
    parsed.architecture = architecture ∧ parsed.loads = loadSegments bytes
      ∧ parsed.dynamic = dynamicSegment bytes
      ∧ ∀ load ∈ loadSegments bytes, load.Placeable bytes := by
  unfold parseRuntimeElf at h
  simp only [↓guard_bind_eq_ok, bind_eq_ok, refuseIf_eq_ok, pure_eq_ok_iff] at h
  obtain ⟨_, _, _, _, _, _, _, found, _, _, _, ha, _, _, _, _, _, _, _, _, _, _, _,
    count, hc, _, _, segments, hs, _, _, rfl⟩ := h
  obtain ⟨hp, hl, hd⟩ := foldlM_collect hs
  have hh : programHeaders bytes = headersAt bytes (range count) := by
    rw [programHeaders, hc]
    rfl
  rw [loadSegments, dynamicSegment, hh]
  exact ⟨not_not.mp ha, hl, hd, hp⟩

/-! ## Ranges of addresses -/

/-- **No later segment disturbs the range.** Wherever segments after the one
that holds the range cover an address of it, the last of them puts there the
byte the file has. -/
def Undisturbed (bytes : List UInt8) (loads : List ProgramHeader) (address length : Nat) : Prop :=
  ∀ lower load upper, loads = lower ++ load :: upper → load.holds address (address + length) →
    ∀ i < length, ∀ byte ∈ image bytes upper (address + i),
      bytes[load.offset + (address - load.virtualAddress) + i]? = some byte

theorem mappedFileOffset_eq_ok (h : mappedFileOffset loads addr length = .ok offset) :
    ∃ load, loads.filter (·.holds addr (addr + length)) = [load]
      ∧ offset = load.offset + (addr - load.virtualAddress) := by
  unfold mappedFileOffset at h
  simp only [bind_eq_ok, okOr_eq_ok, checkedAdd_eq_some] at h
  obtain ⟨_, ⟨_, rfl⟩, h⟩ := h
  split at h
  · rename_i load hl
    rw [okOr_eq_ok, checkedAdd_eq_some] at h
    exact ⟨load, hl, h.2.symm⟩
  · cases h

variable {lower upper : List ProgramHeader} {load : ProgramHeader}

/-- Whichever way the table is cut at a segment that holds the range, the
parser reads through that segment, and no later one holds it. -/
theorem offset_of_holds (h : mappedFileOffset (lower ++ load :: upper) addr length = .ok offset)
    (hl : load.holds addr (addr + length)) :
    offset = load.offset + (addr - load.virtualAddress)
      ∧ ∀ later ∈ upper, ¬ later.holds addr (addr + length) := by
  obtain ⟨only, ho, rfl⟩ := mappedFileOffset_eq_ok h
  rw [filter_append, filter_cons, if_pos hl, append_eq_singleton_iff] at ho
  obtain ⟨_, ho⟩ | ⟨_, ho⟩ := ho
  · obtain ⟨rfl, hu⟩ := cons.inj ho
    exact ⟨rfl, filter_eq_nil_iff.mp hu⟩
  · cases ho

theorem image_eq_iff {i : Nat} (hp : load.Placeable bytes)
    (hh : load.holds addr (addr + length)) (hi : i < length) :
    image bytes (lower ++ load :: upper) (addr + i)
        = bytes[load.offset + (addr - load.virtualAddress) + i]?
      ↔ ∀ byte ∈ image bytes upper (addr + i),
          bytes[load.offset + (addr - load.virtualAddress) + i]? = some byte := by
  obtain ⟨_, hs, he⟩ := ProgramHeader.holds_iff.mp hh
  have hin : load.offset + (addr - load.virtualAddress) + i < bytes.length := by
    have := hp.inFile
    omega
  have hl : load.layer bytes (addr + i)
      = some bytes[load.offset + (addr - load.virtualAddress) + i] := by
    have := hp.fits
    rw [ProgramHeader.layer, if_pos ⟨by omega, by omega⟩, if_pos (by omega),
      show load.offset + (addr + i - load.virtualAddress)
        = load.offset + (addr - load.virtualAddress) + i by omega,
      getElem?_eq_getElem hin]
  rw [getElem?_eq_getElem hin, image, map_append, map_cons, overlay_eq_iff hl]
  simp only [some_inj, eq_comm]
  rfl

/-- **The image shows a range as the parser reads it** exactly when no later
segment disturbs it. -/
theorem readRange_image_iff {read : List UInt8} (hp : ∀ load ∈ loads, load.Placeable bytes)
    (h : virtualFileSlice bytes loads addr length = .ok read) :
    readRange (image bytes loads) addr length = some read
      ↔ Undisturbed bytes loads addr length := by
  unfold virtualFileSlice at h
  rw [bind_eq_ok] at h
  obtain ⟨offset, hoff, hs⟩ := h
  obtain ⟨hin, rfl⟩ := sliceAt_eq_ok hs
  have hl : ((bytes.drop offset).take length).length = length := by
    rw [length_take, length_drop]
    omega
  have hg : ∀ i < length, ((bytes.drop offset).take length)[i]? = bytes[offset + i]? := by
    intro i hi
    rw [getElem?_take_of_lt hi, getElem?_drop]
  rw [readRange_eq_some hl]
  constructor
  · rintro hr lower load upper rfl hh i hi
    obtain ⟨rfl, _⟩ := offset_of_holds hoff hh
    have hpl := hp load (mem_append_right _ mem_cons_self)
    exact (image_eq_iff hpl hh hi).mp ((hr i hi).trans (hg i hi))
  · intro hu i hi
    obtain ⟨load, ho, rfl⟩ := mappedFileOffset_eq_ok hoff
    obtain ⟨lower, upper, rfl, _, hh, _⟩ := filter_eq_cons_iff.mp ho
    rw [hg i hi, image_eq_iff (hp load (mem_append_right _ mem_cons_self)) hh hi]
    exact hu lower load upper rfl hh i hi

/-- **Segments that keep apart disturb nothing**: each either holds the range
or does not meet it. -/
theorem undisturbed_of_apart (h : mappedFileOffset loads addr length = .ok offset)
    (ha : ∀ load ∈ loads, load.holds addr (addr + length)
      ∨ load.virtualAddress + load.memorySize ≤ addr ∨ addr + length ≤ load.virtualAddress) :
    Undisturbed bytes loads addr length := by
  rintro lower load upper rfl hh i hi byte hb
  obtain ⟨_, hl⟩ := offset_of_holds h hh
  have hn : image bytes upper (addr + i) = none := by
    refine overlay_eq_none (fun layer hly => ?_)
    obtain ⟨later, hm, rfl⟩ := mem_map.mp hly
    have := (ha later (mem_append_right _ (mem_cons_of_mem _ hm))).resolve_left
      (hl later hm)
    exact if_neg (by omega)
  rw [hn] at hb
  cases hb

/-! ## What the parser reports and what the image has -/

/-- **An accepted file** with the libraries and the search policy it is
reported to have. A loader object is accepted only without libraries and with
the default policy. -/
def Accepted (bytes : List UInt8) (architecture : PersonalWorkerRuntimeArchitecture)
    (names : List String) (search : LinuxRuntimeDynamicSearchPolicy) : Prop :=
  (∃ dependency, parseLinuxRuntimeElfDependency bytes architecture = .ok dependency
    ∧ dependency.linkage = .dynamic ∧ dependency.neededLibraries = names
    ∧ dependency.dynamicSearch = some search)
  ∨ (∃ object, parseLinuxRuntimeLoaderObject bytes architecture = .ok object
    ∧ names = [] ∧ search = .default)

/-- The libraries and the search policy, read from memory. -/
def imageDependencies (memory : Nat → Option UInt8) (header : ProgramHeader)
    (architecture : PersonalWorkerRuntimeArchitecture) :
    Except LinuxRuntimeElfError (List String × LinuxRuntimeDynamicSearchPolicy) := do
  let values ← okOr (readRange memory header.virtualAddress header.fileSize) sizeError
  let dynamic ← readDynamic values
  resolveStrings (fun address size => okOr (readRange memory address size) sizeError)
    architecture dynamic

/-- **The parser sees the image.** The dynamic segment and the string table
are in memory as the parser read them, and memory has the reported libraries
and search policy. -/
def SeesImage (bytes : List UInt8) (architecture : PersonalWorkerRuntimeArchitecture)
    (names : List String) (search : LinuxRuntimeDynamicSearchPolicy) : Prop :=
  ∃ header values dynamic, dynamicSegment bytes = some header
    ∧ header.fileSlice bytes = .ok values ∧ readDynamic values = .ok dynamic
    ∧ readRange (image bytes (loadSegments bytes)) header.virtualAddress header.fileSize
        = some values
    ∧ (∀ addr ∈ dynamic.stringTableAddress, ∀ size ∈ dynamic.stringTableSize,
        ∃ table, virtualFileSlice bytes (loadSegments bytes) addr size = .ok table
          ∧ readRange (image bytes (loadSegments bytes)) addr size = some table)
    ∧ imageDependencies (image bytes (loadSegments bytes)) header architecture
        = .ok (names, search)

/-- The entries the dynamic segment has in the file. -/
def dynamicValues (bytes : List UInt8) : Option DynamicValues := do
  let header ← dynamicSegment bytes
  let values ← (header.fileSlice bytes).toOption
  (readDynamic values).toOption

/-- **No load segment disturbs the dynamic segment or the string table.** -/
def LaterLoadsAgree (bytes : List UInt8) : Prop :=
  (∀ header ∈ dynamicSegment bytes,
    Undisturbed bytes (loadSegments bytes) header.virtualAddress header.fileSize)
  ∧ ∀ dynamic ∈ dynamicValues bytes, ∀ addr ∈ dynamic.stringTableAddress,
      ∀ size ∈ dynamic.stringTableSize, Undisturbed bytes (loadSegments bytes) addr size

/-- What both entry points have done before they accept. -/
theorem Accepted.reads {names : List String} {search : LinuxRuntimeDynamicSearchPolicy}
    (h : Accepted bytes architecture names search) :
    ∃ header dynamic, dynamicSegment bytes = some header
      ∧ parseDynamic bytes header (loadSegments bytes) = .ok dynamic
      ∧ resolveDynamicStrings bytes (loadSegments bytes) architecture dynamic = .ok (names, search)
      ∧ ∀ load ∈ loadSegments bytes, load.Placeable bytes := by
  obtain ⟨dependency, h, hlin, rfl, hs⟩ | ⟨object, h, rfl, rfl⟩ := h
  · unfold parseLinuxRuntimeElfDependency at h
    simp only [↓guard_bind_eq_ok, bind_eq_ok, refuseIf_eq_ok, not_or, not_not] at h
    obtain ⟨parsed, hpar, loader, _, dynamic, hdyn, ⟨hb, _⟩, h⟩ := h
    obtain ⟨rfl, hl, hseg, hp⟩ := parseRuntimeElf_eq_ok hpar
    rw [hseg, hl] at hdyn
    rw [hseg] at hb
    rw [hl] at h
    cases loader with
    | none =>
      rw [pure_eq_ok_iff] at h
      subst h
      cases hlin
    | some loader =>
      simp only [bind_eq_ok, pure_eq_ok_iff] at h
      obtain ⟨⟨names, reported⟩, hr, rfl⟩ := h
      obtain ⟨header, hhdr⟩ := isSome_iff_exists.mp hb.symm
      rw [hhdr, mapM_some, map_eq_ok] at hdyn
      obtain ⟨parsedDynamic, hdyn, rfl⟩ := hdyn
      obtain rfl := some.inj hs
      exact ⟨header, parsedDynamic, hhdr, hdyn, hr, hp⟩
  · unfold parseLinuxRuntimeLoaderObject at h
    simp only [↓guard_bind_eq_ok, bind_eq_ok, okOr_eq_ok, refuseIf_eq_ok] at h
    obtain ⟨parsed, hpar, _, header, hhdr, dynamic, hdyn, ⟨names, search⟩, hr, hdef, _⟩ := h
    obtain ⟨rfl, hl, hseg, hp⟩ := parseRuntimeElf_eq_ok hpar
    rw [hl] at hdyn hr
    rw [hseg] at hhdr
    rw [not_or, not_not, not_not, List.isEmpty_iff] at hdef
    obtain ⟨rfl, rfl⟩ := hdef
    exact ⟨header, dynamic, hhdr, hdyn, hr, hp⟩

theorem parseDynamic_eq_ok {header : ProgramHeader}
    (h : parseDynamic bytes header loads = .ok dynamic) :
    ∃ values, header.fileSlice bytes = .ok values ∧ readDynamic values = .ok dynamic
      ∧ virtualFileSlice bytes loads header.virtualAddress header.fileSize = .ok values := by
  unfold parseDynamic at h
  simp only [↓guard_bind_eq_ok, bind_eq_ok, refuseIf_eq_ok, not_not, pure_eq_ok, ok.injEq] at h
  obtain ⟨_, offset, ho, rfl, values, hv, parsed, hp, _, rfl⟩ := h
  refine ⟨values, hv, hp, ?_⟩
  rw [virtualFileSlice, ho, ok_bind]
  exact hv

/-- **The parser sees the image exactly when later load segments agree with
what it read.** -/
theorem sees_image_iff {bytes : List UInt8} {architecture : PersonalWorkerRuntimeArchitecture}
    {names : List String} {search : LinuxRuntimeDynamicSearchPolicy}
    (h : Accepted bytes architecture names search) :
    SeesImage bytes architecture names search ↔ LaterLoadsAgree bytes := by
  obtain ⟨header, dynamic, hhdr, hpr, hr, hp⟩ := h.reads
  obtain ⟨values, hv, hrd, hsl⟩ := parseDynamic_eq_ok hpr
  have hdyn : dynamicValues bytes = some dynamic := by
    simp [dynamicValues, hhdr, hv, hrd, Except.toOption]
  constructor
  · rintro ⟨header', values', dynamic', hhdr', hv', hrd', hm, htab, _⟩
    obtain rfl := some.inj (hhdr.symm.trans hhdr')
    obtain rfl := Except.ok.inj (hv.symm.trans hv')
    obtain rfl := ok.inj (hrd.symm.trans hrd')
    constructor
    · intro other ho
      obtain rfl := some.inj (hhdr.symm.trans ho)
      exact (readRange_image_iff hp hsl).mp hm
    · intro other ho addr hadd size hs
      obtain rfl := some.inj (hdyn.symm.trans ho)
      obtain ⟨table, ht, hm⟩ := htab addr hadd size hs
      exact (readRange_image_iff hp ht).mp hm
  · rintro ⟨hh, htab⟩
    have hm := (readRange_image_iff hp hsl).mpr (hh header hhdr)
    have ht : ∀ addr ∈ dynamic.stringTableAddress, ∀ size ∈ dynamic.stringTableSize,
        ∃ table, virtualFileSlice bytes (loadSegments bytes) addr size = .ok table
          ∧ readRange (image bytes (loadSegments bytes)) addr size = some table := by
      intro addr hadd size hs
      unfold resolveDynamicStrings resolveStrings at hr
      rw [hadd, hs] at hr
      simp only [↓guard_bind_eq_ok, bind_eq_ok] at hr
      obtain ⟨_, table, ht, _⟩ := hr
      exact ⟨table, ht, (readRange_image_iff hp ht).mpr
        (htab dynamic hdyn addr hadd size hs)⟩
    refine ⟨header, values, dynamic, hhdr, hv, hrd, hm, ht, ?_⟩
    rw [imageDependencies, hm]
    show (readDynamic values >>= _) = _
    rw [hrd, ok_bind, ← hr]
    -- the string table is looked at only at the address and size the entries give
    unfold resolveDynamicStrings resolveStrings
    split
    · rename_i addr size hadd hs
      obtain ⟨table, ht, hm⟩ := ht addr hadd size hs
      dsimp only
      rw [hm, ht, okOr_some]
    · rfl
    · rfl

/-! ## A loader object with two load segments

The first segment holds the whole file at `0x1000`, with two empty dynamic
entries at `0x1120`. The second has one byte, a `1` of the file's own header,
and goes wherever it is told. -/

/-- A number in bytes, the lowest first. -/
def leBytes : Nat → Nat → List UInt8
  | 0, _ => []
  | width + 1, value => UInt8.ofNat value :: leBytes width (value / 256)

/-- A header in bytes. -/
def encodeHeader (header : ProgramHeader) : List UInt8 :=
  leBytes 4 header.kind ++ leBytes 4 header.flags ++ leBytes 8 header.offset
    ++ leBytes 8 header.virtualAddress ++ leBytes 8 header.virtualAddress
    ++ leBytes 8 header.fileSize ++ leBytes 8 header.memorySize ++ leBytes 8 header.alignment

/-- The dynamic section of the sample. -/
def sampleDynamic : ProgramHeader := ⟨ptDynamic, 6, 288, 0x1120, 32, 32, 8⟩

/-- Two segments, one at some address. -/
def sampleLoads (address : Nat) : List ProgramHeader :=
  [⟨ptLoad, 5, 0, 0x1000, 320, 320, 0x1000⟩, ⟨ptLoad, 6, 6, address, 1, 1, 1⟩]

/-- A file with those segments. -/
def sampleObject (address : Nat) : List UInt8 :=
  [0x7f, 0x45, 0x4c, 0x46, 2, 1, 1, 0] ++ leBytes 8 0
    ++ leBytes 2 etDyn ++ leBytes 2 emX86_64 ++ leBytes 4 1 ++ leBytes 8 0x1040
    ++ leBytes 8 64 ++ leBytes 8 0 ++ leBytes 4 0 ++ leBytes 2 64 ++ leBytes 2 56
    ++ leBytes 2 4 ++ leBytes 6 0
    ++ (sampleLoads address).flatMap encodeHeader ++ encodeHeader sampleDynamic
    ++ encodeHeader ⟨ptGnuStack, 6, 0, 0, 0, 0, 16⟩ ++ leBytes 32 0

/-- With the second segment out of the way, the parser sees the image. -/
theorem sees_image_iff_apart :
    Accepted (sampleObject 0x3000) .x86_64 [] .default
      ∧ SeesImage (sampleObject 0x3000) .x86_64 [] .default := by
  have ha : Accepted (sampleObject 0x3000) .x86_64 [] .default :=
    .inr ⟨⟨.x86_64, .x86_64Gnu⟩, okIs_eq_true.mp (by decide +kernel), rfl, rfl⟩
  have hl : loadSegments (sampleObject 0x3000) = sampleLoads 0x3000 := by decide +kernel
  have hh : dynamicSegment (sampleObject 0x3000) = some sampleDynamic := by decide +kernel
  have hd : dynamicValues (sampleObject 0x3000) = some {} := by decide +kernel
  have hmap : okIs (mappedFileOffset (sampleLoads 0x3000) 0x1120 32) 288 := by decide
  refine ⟨ha, (sees_image_iff ha).mpr ⟨fun header hm => ?_, fun _ hm => ?_⟩⟩
  · obtain rfl := some.inj (hh.symm.trans hm)
    rw [hl]
    exact undisturbed_of_apart (okIs_eq_true.mp hmap) (by decide)
  · obtain rfl := some.inj (hd.symm.trans hm)
    exact fun addr hadd => absurd hadd (not_mem_none addr)

/-- **With the second segment over the first dynamic entry**, the object is
accepted as one that needs no library, and the image needs one. -/
theorem not_sees_image_overlapping :
    Accepted (sampleObject 0x1120) .x86_64 [] .default
      ∧ ¬ SeesImage (sampleObject 0x1120) .x86_64 [] .default := by
  have hh : dynamicSegment (sampleObject 0x1120) = some sampleDynamic := by decide +kernel
  have hv : okIs (sampleDynamic.fileSlice (sampleObject 0x1120)) (leBytes 32 0) := by
    decide +kernel
  have hm : readRange (image (sampleObject 0x1120) (loadSegments (sampleObject 0x1120)))
      0x1120 32 = some (leBytes 32 1) := by decide +kernel
  have hd : leBytes 32 1 ≠ leBytes 32 0 := by decide
  refine ⟨.inr ⟨⟨.x86_64, .x86_64Gnu⟩, okIs_eq_true.mp (by decide +kernel), rfl, rfl⟩, ?_⟩
  rintro ⟨header, values, dynamic, hf, hs, _, hr, _⟩
  obtain rfl := some.inj (hh.symm.trans hf)
  obtain rfl := ok.inj ((okIs_eq_true.mp hv).symm.trans hs)
  exact hd (some.inj (hm.symm.trans hr))

end LinuxRuntimeElf

end Glaeda
