import X64dbgMcp.Collection.Paging
import X64dbgMcp.Plugin.Debuggee
import X64dbgMcp.Plugin.DiscoveryCursor
import X64dbgMcp.Plugin.Utf8

/-!
# Listings of native records

The sections, imports and exports of a module, its symbols and functions, and the
memory map.  Every handler takes the native list, checks it, goes on from its cursor,
and cuts the page when enough records are out.  Three of them also count what matches
in the whole list before they emit anything.
-/

namespace X64dbgMcp.Plugin

open Collection Text

/-- A module as x64dbg describes it at an address. -/
structure NativeModule where
  base : Nat
  size : Nat
  sectionCount : Int

/-- A section as x64dbg lists it. -/
structure SectionRecord where
  name : List UInt8
  addr : Nat
  size : Nat

/-- An import as x64dbg lists it. -/
structure ImportRecord where
  name : List UInt8
  undecoratedName : List UInt8
  iatRva : Nat
  iatVa : Nat
  ordinal : Nat

/-- An export as x64dbg lists it. -/
structure ExportRecord where
  name : List UInt8
  undecoratedName : List UInt8
  forwardName : List UInt8
  rva : Nat
  va : Nat
  ordinal : Nat
  forwarded : Bool

/-- The types of symbols. -/
inductive SymbolType where
  | function
  | imported
  | exported
  deriving DecidableEq

/-- A symbol as x64dbg lists it. -/
structure SymbolRecord where
  mod : List UInt8
  name : List UInt8
  rva : Nat
  type : SymbolType
  manual : Bool

/-- A function as x64dbg lists it. -/
structure FunctionRecord where
  mod : List UInt8
  rvaStart : Nat
  rvaEnd : Nat
  instructionCount : Nat
  manual : Bool

/-- A range of pages as x64dbg lists it. -/
structure MemoryPage where
  base : Nat
  size : Nat
  allocationBase : Nat
  protect : Nat
  state : Nat
  type : Nat
  info : List UInt8

/-- The native lists of the debuggee. -/
structure Natives extends Debuggee where
  infoFromAddr : Nat → Option NativeModule
  sections : Nat → NativeList SectionRecord
  imports : NativeModule → NativeList ImportRecord
  exports : NativeModule → NativeList ExportRecord
  symbols : NativeList SymbolRecord
  functions : NativeList FunctionRecord
  memMap : NativeList MemoryPage

/-- An entry of an answer. -/
inductive ListingItem where
  | sectionItem (index : Nat) (name : Option (List UInt8)) (start : ResolvedLocation)
      (size endExclusive : Nat)
  | importItem (name undecoratedName : Option (List UInt8)) (ordinal : Option Nat)
      (iat : ResolvedLocation) (resolution : String) (resolvedTarget : Option ResolvedLocation)
  | exportItem (name undecoratedName : Option (List UInt8)) (ordinal : Nat)
      (location : ResolvedLocation) (forwarded : Bool) (forwardName : Option (List UInt8))
  | symbolItem (name : List UInt8) (type : String) (manual : Bool) (location : ResolvedLocation)
  | functionItem (name : Option (List UInt8)) (start endInclusive : ResolvedLocation)
      (instructionCount : Nat) (manual : Bool)
  | memoryItem (base size : Nat) (allocationBase : Option Nat) (protect state type : Nat)
      (info : Option (List UInt8))
  deriving DecidableEq

/-- A page of a listing. -/
structure ListingPage where
  module : Option (List UInt8) := none
  nativeCount : Option Nat := none
  matchedCount : Option Nat := none
  items : List ListingItem
  nextCursor : Option String
  completeness : Option String := none
  stateGeneration : Nat

/-- An early return of an error. -/
def refuseIf (condition : Prop) [Decidable condition] (reason : ErrorResponse) :
    Except ErrorResponse Unit :=
  if condition then .error reason else .ok ()

/-- The value, or the error if there is none. -/
def orRefuse {α : Type} (value : Option α) (reason : ErrorResponse) : Except ErrorResponse α :=
  match value with
  | some value => .ok value
  | none => .error reason

/-- `strnlen_s` on the buffer of a native record. -/
def boundedText (buffer : List UInt8) : List UInt8 :=
  buffer.takeWhile fun byte => byte != 0

/-- The text of a terminated field, if it is UTF-8. -/
def fixedString (buffer : List UInt8) : Option (List UInt8) :=
  if (boundedText buffer).length = buffer.length then none
  else if isValidUtf8 (boundedText buffer) then some (boundedText buffer)
  else none

/-- A text that is null in the answer when it is empty. -/
def textOrNull (text : List UInt8) : Option (List UInt8) :=
  if text.isEmpty then none else some text

/-- The values of a native list within a bound. -/
def nativeValues {α : Type} (list : NativeList α) (unavailable exceeds : ErrorResponse) :
    Except ErrorResponse (List α) :=
  match list with
  | .unavailable => .error unavailable
  | .malformed => .error exceeds
  | .listed values => if kMaxNativeRecords < values.length then .error exceeds else .ok values

section Pages

variable (debuggee : Debuggee) (request : Request)

/-- The deadline is tested at every 256th record. -/
def testDeadline (tests index : Nat) (message : String) : Except ErrorResponse Unit :=
  refuseIf (index % 256 = 0 ∧ debuggee.expired (tests + index / 256) = true)
    (failure "TIMEOUT" message true)

/-- The loop that counts the records that match. -/
def countMatched {α : Type} (judge : Nat → α → Except ErrorResponse Bool) :
    Nat → Nat → List α → Except ErrorResponse Nat
  | _, matched, [] => .ok matched
  | index, matched, value :: rest => do
      let isMatch ← judge index value
      countMatched judge (index + 1) (if isMatch then matched + 1 else matched) rest

/-- The body of the loop that emits. -/
def judgeAt {α : Type} (values : List α)
    (judge : Nat → α → Except ErrorResponse (Option ListingItem)) (index : Nat) :
    Except ErrorResponse (List ListingItem) :=
  match values[index]? with
  | some value => (judge index value).map Option.toList
  | none => .ok []

/-- The loop that emits, and the index at which it stops. -/
def emitPage {α : Type} (values : List α)
    (judge : Nat → α → Except ErrorResponse (Option ListingItem)) :
    Except ErrorResponse (List ListingItem × Nat) :=
  scan (judgeAt values judge) request.pageLimit (values.length - request.cursorIndex)
    request.cursorIndex []

/-- The cursor of the next page, unless this one is the last. -/
def nextCursor (snapshot count index : Nat) : Option String :=
  if index < count then some (discoveryCursor request snapshot index) else none

/-- The query is empty or found in one of the texts. -/
def matchesQuery (texts : List (List UInt8)) : Bool :=
  (utf8 request.query).isEmpty ||
    texts.any fun text => utf8OrdinalContainsIgnoreCase debuggee text (utf8 request.query)

end Pages

section Handlers

variable (build : Build) (natives : Natives) (request : Request) (snapshot : Nat)
  (modules : List ModuleRecord) (module : ModuleRecord)

/-- The sum of a base and an offset does not exceed a pointer. -/
def overflows (base offset : Nat) : Bool :=
  decide (build.limit - 1 - offset < base)

/-- The entry of a section. -/
def sectionItemOf (index : Nat) (name : List UInt8) (record : SectionRecord) : ListingItem :=
  .sectionItem index (textOrNull name) (locationFromModules record.addr modules) record.size
    ((record.addr + record.size) % build.limit)

/-- Whether a section counts. -/
def countSection (index : Nat) (record : SectionRecord) : Except ErrorResponse Bool := do
  let _ ← testDeadline natives.toDebuggee 0 index "section filtering exceeded its deadline"
  let name ← orRefuse (fixedString record.name)
    (failure "INTERNAL" "module section record is invalid" false)
  let _ ← refuseIf (record.addr < module.base)
    (failure "INTERNAL" "module section record is invalid" false)
  let offset := record.addr - module.base
  let _ ← refuseIf (module.size ≤ offset ∨ module.size - offset < record.size)
    (failure "INTERNAL" "module section range is invalid" false)
  pure (matchesQuery natives.toDebuggee request [name])

/-- The entry of a section that belongs on the page. -/
def emitSection (index : Nat) (record : SectionRecord) :
    Except ErrorResponse (Option ListingItem) := do
  let name ← orRefuse (fixedString record.name)
    (failure "INTERNAL" "module section text is invalid" false)
  if !(utf8 request.query).isEmpty &&
      !utf8OrdinalContainsIgnoreCase natives.toDebuggee name (utf8 request.query) then pure none
  else pure (some (sectionItemOf build modules index name record))

/-- The sections of a module. -/
def sectionsList : Except ErrorResponse ListingPage := do
  let native ← orRefuse
    ((natives.infoFromAddr module.base).filter fun native =>
      decide (native.base = module.base ∧ native.size = module.size))
    (failure "BUSY" "module changed during section read" true)
  let _ ← refuseIf (native.sectionCount < 0 ∨ 4096 < native.sectionCount ∨ module.size = 0 ∨
      overflows build module.base module.size = true)
    (failure "OUTPUT_LIMIT_EXCEEDED" "module section metadata exceeds native bounds" false)
  let values ← nativeValues (natives.sections module.base)
    (failure "INTERNAL" "module sections are unavailable" true)
    (failure "OUTPUT_LIMIT_EXCEEDED" "module section list exceeds native bounds" false)
  let _ ← refuseIf (4096 < values.length ∨ (values.length : Int) ≠ native.sectionCount)
    (failure "OUTPUT_LIMIT_EXCEEDED" "module section list exceeds native bounds" false)
  let _ ← refuseIf (values.length < request.cursorIndex)
    (failure "INVALID_ARGUMENT" "cursor is invalid" false)
  let matched ← countMatched (countSection natives request module) 0 0 values
  let page ← emitPage request values (emitSection build natives request modules)
  let _ ← refuseIf (natives.current 0 = false)
    (failure "BUSY" "debugger changed during section read" true)
  pure
    { module := some module.name
      nativeCount := some values.length
      matchedCount := some matched
      items := page.1
      nextCursor := nextCursor request snapshot values.length page.2
      completeness := some "loaded_image_sections"
      stateGeneration := snapshot }

/-- The module as the linkage reader sees it. -/
def linkageModule : Except ErrorResponse NativeModule :=
  orRefuse
    ((natives.infoFromAddr module.base).filter fun native =>
      decide (native.base = module.base ∧ native.size = module.size))
    (failure "BUSY" "module changed during linkage read" true)

/-- The pointer at an address of the debuggee. -/
def readPointer (address : Nat) : Option Nat :=
  (natives.memRead address build.pointerBytes).map fun data =>
    data.toList.foldr (fun byte value => byte.toNat + 256 * value) 0

/-- The entry of an import. -/
def importItemOf (name undecorated : List UInt8) (record : ImportRecord) : ListingItem :=
  .importItem (textOrNull name) (textOrNull undecorated)
    (if record.ordinal = build.limit - 1 then none else some record.ordinal)
    (locationFromModules record.iatVa modules)
    (match readPointer build natives record.iatVa with
      | none => "unreadable"
      | some 0 => "unresolved"
      | some _ => "resolved")
    (match readPointer build natives record.iatVa with
      | none => none
      | some 0 => none
      | some target => some (locationFromModules target modules))

/-- Whether an import counts. -/
def countImport (index : Nat) (record : ImportRecord) : Except ErrorResponse Bool := do
  let _ ← testDeadline natives.toDebuggee 0 index "import filtering exceeded its deadline"
  let invalid := failure "INTERNAL" "module import text is invalid" false
  let name ← orRefuse (fixedString record.name) invalid
  let undecorated ← orRefuse (fixedString record.undecoratedName) invalid
  pure (matchesQuery natives.toDebuggee request [name, undecorated])

/-- The entry of an import that belongs on the page. -/
def emitImport (_index : Nat) (record : ImportRecord) :
    Except ErrorResponse (Option ListingItem) := do
  let invalid := failure "INTERNAL" "module import record is invalid" false
  let name ← orRefuse (fixedString record.name) invalid
  let undecorated ← orRefuse (fixedString record.undecoratedName) invalid
  let _ ← refuseIf (module.size ≤ record.iatRva ∨
    overflows build module.base record.iatRva = true ∨
    record.iatVa ≠ module.base + record.iatRva) invalid
  if !(utf8 request.query).isEmpty &&
      !utf8OrdinalContainsIgnoreCase natives.toDebuggee name (utf8 request.query) &&
      !utf8OrdinalContainsIgnoreCase natives.toDebuggee undecorated (utf8 request.query) then
    pure none
  else pure (some (importItemOf build natives modules name undecorated record))

/-- The imports of a module. -/
def importsList : Except ErrorResponse ListingPage := do
  let native ← linkageModule natives module
  let values ← nativeValues (natives.imports native)
    (failure "INTERNAL" "module imports are unavailable" true)
    (failure "OUTPUT_LIMIT_EXCEEDED" "module import list exceeds native bounds" false)
  let _ ← refuseIf (values.length < request.cursorIndex)
    (failure "INVALID_ARGUMENT" "cursor is invalid" false)
  let matched ← countMatched (countImport natives request) 0 0 values
  let page ← emitPage request values (emitImport build natives request modules module)
  let _ ← refuseIf (natives.current 0 = false)
    (failure "BUSY" "debugger changed during import read" true)
  pure
    { module := some module.name
      nativeCount := some values.length
      matchedCount := some matched
      items := page.1
      nextCursor := nextCursor request snapshot values.length page.2
      completeness := some "known_only"
      stateGeneration := snapshot }

/-- The entry of an export. -/
def exportItemOf (name undecorated forward : List UInt8) (record : ExportRecord) : ListingItem :=
  .exportItem (textOrNull name) (textOrNull undecorated) record.ordinal
    (locationFromModules record.va modules) record.forwarded
    (if record.forwarded then some forward else none)

/-- Whether an export counts. -/
def countExport (index : Nat) (record : ExportRecord) : Except ErrorResponse Bool := do
  let _ ← testDeadline natives.toDebuggee 0 index "export filtering exceeded its deadline"
  let invalid := failure "INTERNAL" "module export text is invalid" false
  let name ← orRefuse (fixedString record.name) invalid
  let undecorated ← orRefuse (fixedString record.undecoratedName) invalid
  let forward ← orRefuse (fixedString record.forwardName) invalid
  pure (matchesQuery natives.toDebuggee request [name, undecorated, forward])

/-- The entry of an export that belongs on the page. -/
def emitExport (_index : Nat) (record : ExportRecord) :
    Except ErrorResponse (Option ListingItem) := do
  let invalid := failure "INTERNAL" "module export record is invalid" false
  let name ← orRefuse (fixedString record.name) invalid
  let undecorated ← orRefuse (fixedString record.undecoratedName) invalid
  let forward ← orRefuse (fixedString record.forwardName) invalid
  let _ ← refuseIf (module.size ≤ record.rva ∨ overflows build module.base record.rva = true ∨
    record.va ≠ module.base + record.rva ∨ (record.forwarded = true ∧ forward.isEmpty = true))
    invalid
  if !(utf8 request.query).isEmpty &&
      !utf8OrdinalContainsIgnoreCase natives.toDebuggee name (utf8 request.query) &&
      !utf8OrdinalContainsIgnoreCase natives.toDebuggee undecorated (utf8 request.query) &&
      !utf8OrdinalContainsIgnoreCase natives.toDebuggee forward (utf8 request.query) then
    pure none
  else pure (some (exportItemOf modules name undecorated forward record))

/-- The exports of a module. -/
def exportsList : Except ErrorResponse ListingPage := do
  let native ← linkageModule natives module
  let values ← nativeValues (natives.exports native)
    (failure "INTERNAL" "module exports are unavailable" true)
    (failure "OUTPUT_LIMIT_EXCEEDED" "module export list exceeds native bounds" false)
  let _ ← refuseIf (values.length < request.cursorIndex)
    (failure "INVALID_ARGUMENT" "cursor is invalid" false)
  let matched ← countMatched (countExport natives request) 0 0 values
  let page ← emitPage request values (emitExport build natives request modules module)
  let _ ← refuseIf (natives.current 0 = false)
    (failure "BUSY" "debugger changed during export read" true)
  pure
    { module := some module.name
      nativeCount := some values.length
      matchedCount := some matched
      items := page.1
      nextCursor := nextCursor request snapshot values.length page.2
      completeness := some "known_only"
      stateGeneration := snapshot }

/-- A type of symbol as it is told. -/
def symbolTypeText : SymbolType → String
  | .function => "function"
  | .imported => "import"
  | .exported => "export"

/-- The entry of a symbol. -/
def symbolItemOf (record : SymbolRecord) : ListingItem :=
  .symbolItem (boundedText record.name) (symbolTypeText record.type) record.manual
    (locationFromModules (module.base + record.rva) modules)

/-- The entry of a symbol that belongs on the page. -/
def emitSymbol (index : Nat) (record : SymbolRecord) :
    Except ErrorResponse (Option ListingItem) := do
  let _ ← testDeadline natives.toDebuggee 0 index "symbol search exceeded its deadline"
  if !natives.equalsIgnoreCase (boundedText record.mod) module.name ||
      !utf8OrdinalContainsIgnoreCase natives.toDebuggee (boundedText record.name)
        (utf8 request.query) then pure none
  else do
    let _ ← refuseIf (module.size ≤ record.rva ∨ overflows build module.base record.rva = true)
      (failure "INTERNAL" "symbol record is outside its module" false)
    pure (some (symbolItemOf modules module record))

/-- The symbols of a module that contain the query. -/
def symbolsSearch : Except ErrorResponse ListingPage := do
  let values ← nativeValues natives.symbols
    (failure "INTERNAL" "symbol database is unavailable" true)
    (failure "OUTPUT_LIMIT_EXCEEDED" "symbol database exceeds native bounds" false)
  let _ ← refuseIf (values.length < request.cursorIndex)
    (failure "INVALID_ARGUMENT" "cursor is invalid" false)
  let page ← emitPage request values (emitSymbol build natives request modules module)
  let _ ← refuseIf (natives.current 0 = false)
    (failure "BUSY" "debugger changed during symbol search" true)
  pure
    { items := page.1
      nextCursor := nextCursor request snapshot values.length page.2
      completeness := some "known_only"
      stateGeneration := snapshot }

/-- The loop that joins names to functions; the first symbol of an address names it. -/
def joinNames : Nat → List (Nat × List UInt8) → List SymbolRecord →
    Except ErrorResponse (List (Nat × List UInt8))
  | _, names, [] => .ok names
  | index, names, record :: rest => do
      let _ ← testDeadline natives.toDebuggee 0 index "function name join exceeded its deadline"
      if record.type = .function ∧
          natives.equalsIgnoreCase (boundedText record.mod) module.name = true ∧
          (names.lookup record.rva).isNone then
        joinNames (index + 1) (names ++ [(record.rva, boundedText record.name)]) rest
      else joinNames (index + 1) names rest

/-- The names of the functions by address. -/
def functionNames : Except ErrorResponse (List (Nat × List UInt8)) :=
  match natives.symbols with
  | .unavailable => .ok []
  | list => do
      let exceeds := failure "OUTPUT_LIMIT_EXCEEDED" "symbol database exceeds native bounds" false
      let values ← nativeValues list exceeds exceeds
      joinNames natives module 0 [] values

/-- The entry of a function. -/
def functionItemOf (name : Option (List UInt8)) (record : FunctionRecord) : ListingItem :=
  .functionItem name (locationFromModules (module.base + record.rvaStart) modules)
    (locationFromModules (module.base + record.rvaEnd) modules) record.instructionCount
    record.manual

/-- The join has made its own tests of the deadline, `kMaxNativeRecords / 256` at most. -/
def emitFunction (names : List (Nat × List UInt8)) (index : Nat) (record : FunctionRecord) :
    Except ErrorResponse (Option ListingItem) := do
  let _ ← testDeadline natives.toDebuggee kMaxNativeRecords index
    "function search exceeded its deadline"
  if !natives.equalsIgnoreCase (boundedText record.mod) module.name ||
      decide (record.rvaEnd < record.rvaStart) || decide (module.size ≤ record.rvaEnd) then
    pure none
  else do
    let _ ← refuseIf (overflows build module.base record.rvaEnd = true)
      (failure "INTERNAL" "function record is outside its module" false)
    let named := names.lookup record.rvaStart
    if !(utf8 request.query).isEmpty &&
        !named.any fun name =>
          utf8OrdinalContainsIgnoreCase natives.toDebuggee name (utf8 request.query) then
      pure none
    else pure (some (functionItemOf modules module named record))

/-- The functions of a module. -/
def functionsList : Except ErrorResponse ListingPage := do
  let values ← nativeValues natives.functions
    (failure "INTERNAL" "function database is unavailable" true)
    (failure "OUTPUT_LIMIT_EXCEEDED" "function database exceeds native bounds" false)
  let names ← functionNames natives module
  let _ ← refuseIf (values.length < request.cursorIndex)
    (failure "INVALID_ARGUMENT" "cursor is invalid" false)
  let page ← emitPage request values (emitFunction build natives request modules module names)
  let _ ← refuseIf (natives.current 0 = false)
    (failure "BUSY" "debugger changed during function search" true)
  pure
    { items := page.1
      nextCursor := nextCursor request snapshot values.length page.2
      completeness := some "known_only"
      stateGeneration := snapshot }

/-- `PAGE_EXECUTE` and its three variants. -/
def isExecutableProtection (protection : Nat) : Bool :=
  [0x10, 0x20, 0x40, 0x80].contains (protection % 0x100)

/-- `MEM_COMMIT` -/
def memCommit : Nat :=
  0x1000

/-- No answer when a range goes beyond 64 bits. -/
def halfOpenRangesOverlap (leftBase leftSize rightBase rightSize : Nat) : Option Bool :=
  if leftSize = 0 ∨ rightSize = 0 then some false
  else if 2 ^ 64 - 1 - leftSize < leftBase ∨ 2 ^ 64 - 1 - rightSize < rightBase then none
  else some (decide (leftBase < rightBase + rightSize ∧ rightBase < leftBase + leftSize))

/-- The entry of a range of pages. -/
def memoryItemOf (record : MemoryPage) : ListingItem :=
  .memoryItem record.base record.size
    (if !request.compact ∨ record.allocationBase ≠ record.base then some record.allocationBase
      else none)
    record.protect record.state record.type
    (if !request.compact ∨ (boundedText record.info).length ≠ 0 then some (boundedText record.info)
      else none)

/-- The entry of a range that belongs on the page. -/
def emitMemoryPage (selected : Option ModuleRecord) (index : Nat) (record : MemoryPage) :
    Except ErrorResponse (Option ListingItem) := do
  let _ ← testDeadline natives.toDebuggee 0 index "memory-map filtering exceeded its deadline"
  let _ ← refuseIf (index % 256 = 0 ∧ natives.current (index / 256) = false)
    (failure "BUSY" "debugger changed during memory-map filtering" true)
  if request.committedOnly && record.state != memCommit then pure none
  else if request.executableOnly && !isExecutableProtection record.protect then pure none
  else
    match selected with
    | none => pure (some (memoryItemOf request record))
    | some module => do
        let overlap ← orRefuse
          (halfOpenRangesOverlap record.base record.size module.base module.size)
          (failure "INTERNAL" "memory-map range overflow" false)
        if overlap then pure (some (memoryItemOf request record)) else pure none

/-- The module that a memory map is restricted to, if there is one. -/
def selectModule : Except ErrorResponse (Option ModuleRecord) :=
  if (utf8 request.module).isEmpty then .ok none
  else do
    let modules ← orRefuse (captureModuleRecords natives.toDebuggee)
      (failure "INTERNAL" "module snapshot is invalid" true)
    let module ← orRefuse (uniqueModule natives.toDebuggee modules (utf8 request.module))
      (failure "INVALID_ARGUMENT" "module is missing or ambiguous" false)
    pure (some module)

/-- The memory of the debuggee. -/
def memoryMap : Except ErrorResponse ListingPage := do
  let selected ← selectModule natives request
  let values ← nativeValues natives.memMap
    (failure "INTERNAL" "memory map is unavailable" true)
    (failure "OUTPUT_LIMIT_EXCEEDED" "memory map exceeds native bounds" false)
  let _ ← refuseIf (values.length < request.cursorIndex)
    (failure "INVALID_ARGUMENT" "cursor is invalid" false)
  let page ← emitPage request values (emitMemoryPage natives request selected)
  let _ ← refuseIf (natives.current kMaxNativeRecords = false)
    (failure "BUSY" "debugger changed during memory-map snapshot" true)
  pure
    { items := page.1
      nextCursor := nextCursor request snapshot values.length page.2
      stateGeneration := snapshot }

/-- The snapshot that a listing reads, when the debuggee is paused and the cursor is fresh. -/
def listingSnapshot : Except ErrorResponse Nat := do
  let snapshot ← orRefuse (natives.snapshot.filter fun _ => natives.debugging)
    (failure "INVALID_DEBUGGER_STATE" "operation requires a paused debuggee" false)
  let _ ← refuseIf ((request.cursorGeneration.any fun generation => generation != snapshot) = true)
    (failure "STALE_CURSOR" "cursor generation is stale" false)
  pure snapshot

/-- The handlers of the listings, by their methods. -/
def listRecords : Except ErrorResponse ListingPage := do
  let _ ← refuseIf (request.discoveryCursorInvalid = true)
    (failure "INVALID_ARGUMENT" "cursor does not match the discovery filters" false)
  let snapshot ← listingSnapshot natives request
  if request.method = "memory.map" then memoryMap natives request snapshot
  else do
    let modules ← orRefuse (captureModuleRecords natives.toDebuggee)
      (failure "INTERNAL" "module snapshot is invalid" true)
    let module ← orRefuse (uniqueModule natives.toDebuggee modules (utf8 request.module))
      (failure "INVALID_ARGUMENT" "module is missing or ambiguous" false)
    if request.method = "sections.list" then
      sectionsList build natives request snapshot modules module
    else if request.method = "imports.list" then
      importsList build natives request snapshot modules module
    else if request.method = "exports.list" then
      exportsList build natives request snapshot modules module
    else if request.method = "symbols.search" then
      symbolsSearch build natives request snapshot modules module
    else functionsList build natives request snapshot modules module

end Handlers

end X64dbgMcp.Plugin
