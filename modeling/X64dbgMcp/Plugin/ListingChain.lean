import X64dbgMcp.Plugin.ListingPaging

/-!
# The chain of pages of a listing

A handler answers a request at any position with the verdicts on the records from
there on.  Whoever follows the cursors therefore gets the item of every record that
matches, once and in native order, whatever limits the pages have on the way; the
three handlers that count report the number of these items on every page.
-/

namespace X64dbgMcp.Plugin

open Collection Text

/-- The methods whose pages report how many records match. -/
def countingMethods : List String :=
  ["sections.list", "imports.list", "exports.list"]

/-- A page that goes on from the cursor of its request up to `stop`. -/
structure Answers (request : Request) (snapshot : Nat) (verdicts : List (Option ListingItem))
    (stop : Nat) (page : ListingPage) : Prop where
  low : request.cursorIndex ≤ stop
  high : stop ≤ verdicts.length
  progress : request.cursorIndex < verdicts.length → request.cursorIndex < stop
  items : page.items = stretch (verdictAt verdicts) request.cursorIndex stop
  next : page.nextCursor = nextCursor request snapshot verdicts.length stop
  matched : request.method ∈ countingMethods →
    page.matchedCount = some verdicts.reduceOption.length

theorem length_reduceOption_mapIdx {α : Type} {accept : α → Bool} (values : List α)
    {verdict : Nat → α → Option ListingItem}
    (decides : ∀ index value, (verdict index value).isSome = accept value) :
    (values.mapIdx verdict).reduceOption.length = values.countP accept := by
  induction values generalizing verdict with
  | nil => rfl
  | cons value rest ih =>
      have tail := @ih (fun index => verdict (index + 1)) fun index value => decides (index + 1) value
      have head := decides 0 value
      rw [List.mapIdx_cons, List.countP_cons, ← tail]
      cases judged : verdict 0 value with
      | none =>
          rw [judged] at head
          rw [List.reduceOption_cons_of_none, ← head]
          rfl
      | some item =>
          rw [judged] at head
          rw [List.reduceOption_cons_of_some, ← head]
          rfl

/-- The answer of a handler whose loop stops at `stop`. -/
theorem answers_of_stop {α : Type} {request : Request} {snapshot stop : Nat} {values : List α}
    {verdict : Nat → α → Option ListingItem} {page : ListingPage}
    (low : request.cursorIndex ≤ stop) (high : stop ≤ values.length)
    (progress : request.cursorIndex < values.length → request.cursorIndex < stop)
    (items : page.items = stretch (verdictAt (values.mapIdx verdict)) request.cursorIndex stop)
    (next : page.nextCursor = nextCursor request snapshot values.length stop)
    (matched : request.method ∈ countingMethods →
      page.matchedCount = some (values.mapIdx verdict).reduceOption.length) :
    Answers request snapshot (values.mapIdx verdict) stop page :=
  { low := low
    high := by rwa [List.length_mapIdx]
    progress := by rwa [List.length_mapIdx]
    items := items
    next := by rwa [List.length_mapIdx]
    matched := matched }

/-! ## The handlers -/

section Handlers

variable {build : Build} {natives : Natives} {request : Request} {snapshot : Nat}
  {modules : List ModuleRecord} {module : ModuleRecord} {native : NativeModule}
  (steady : natives.toDebuggee.Steady) (limit : 0 < request.pageLimit)

include steady limit

theorem sectionsList_spec {values : List SectionRecord}
    (info : natives.infoFromAddr module.base = some native)
    (unmoved : native.base = module.base ∧ native.size = module.size)
    (bounds : native.sectionCount ≤ 4096 ∧ module.size ≠ 0 ∧
      overflows build module.base module.size = false)
    (listed : natives.sections module.base = .listed values)
    (count : (values.length : Int) = native.sectionCount)
    (passes : ∀ record ∈ values, SectionPasses module record)
    (within : request.cursorIndex ≤ values.length) :
    ∃ page stop, sectionsList build natives request snapshot modules module = .ok page ∧
      Answers request snapshot (values.mapIdx (sectionVerdict build natives request modules))
        stop page := by
  rcases bounds with ⟨few, nonempty, fits⟩
  have counted := @countMatched_spec _ (countSection natives request module)
    (fun record => matchesQuery natives.toDebuggee request [boundedText record.name]) values 0 0
    fun index record member => countSection_spec steady index (passes record member)
  have number := @length_reduceOption_mapIdx _
    (fun record => matchesQuery natives.toDebuggee request [boundedText record.name]) values
    (sectionVerdict build natives request modules) (by
      intro index record
      rw [sectionVerdict]
      split_ifs with isMatch <;> simp [isMatch])
  rcases @emitPage_spec _ request values (emitSection build natives request modules)
    (sectionVerdict build natives request modules)
    (fun index record member => emitSection_spec index (passes record member)) limit within with
    ⟨stop, low, high, progress, emitted⟩
  refine ⟨
    { module := some module.name
      nativeCount := some values.length
      matchedCount := some (values.mapIdx (sectionVerdict build natives request modules)).reduceOption.length
      items := stretch (verdictAt (values.mapIdx (sectionVerdict build natives request modules)))
        request.cursorIndex stop
      nextCursor := nextCursor request snapshot values.length stop
      completeness := some "loaded_image_sections"
      stateGeneration := snapshot },
    stop, ?_, answers_of_stop low high progress rfl rfl fun _ => rfl⟩
  simp only [sectionsList, info, Option.filter_some, unmoved, and_self, decide_true, if_true,
    orRefuse_some, ok_bind]
  rw [refuseIf_of_not (by simp only [fits, nonempty, Bool.false_eq_true, or_false]; omega), ok_bind,
    nativeValues_listed listed (by rw [kMaxNativeRecords]; omega), ok_bind,
    refuseIf_of_not (by omega), ok_bind, refuseIf_of_not (by omega), ok_bind, counted, ok_bind,
    emitted, ok_bind, refuseIf_of_not (by simp [steady.unchanged]), number, Nat.zero_add]
  rfl

theorem importsList_spec {values : List ImportRecord}
    (info : natives.infoFromAddr module.base = some native)
    (unmoved : native.base = module.base ∧ native.size = module.size)
    (listed : natives.imports native = .listed values)
    (bounded : values.length ≤ kMaxNativeRecords)
    (passes : ∀ record ∈ values, ImportPasses build module record)
    (within : request.cursorIndex ≤ values.length) :
    ∃ page stop, importsList build natives request snapshot modules module = .ok page ∧
      Answers request snapshot (values.mapIdx fun _ => importVerdict build natives request modules)
        stop page := by
  have counted := @countMatched_spec _ (countImport natives request)
    (fun record => matchesQuery natives.toDebuggee request
      [boundedText record.name, boundedText record.undecoratedName]) values 0 0
    fun index record member => countImport_spec steady index (passes record member)
  have number := @length_reduceOption_mapIdx _
    (fun record => matchesQuery natives.toDebuggee request
      [boundedText record.name, boundedText record.undecoratedName]) values
    (fun _ => importVerdict build natives request modules) (by
      intro _ record
      rw [importVerdict]
      split_ifs with isMatch <;> simp [isMatch])
  rcases @emitPage_spec _ request values (emitImport build natives request modules module)
    (fun _ => importVerdict build natives request modules)
    (fun index record member => emitImport_spec index (passes record member)) limit within with
    ⟨stop, low, high, progress, emitted⟩
  refine ⟨
    { module := some module.name
      nativeCount := some values.length
      matchedCount := some
        (values.mapIdx fun _ => importVerdict build natives request modules).reduceOption.length
      items := stretch
        (verdictAt (values.mapIdx fun _ => importVerdict build natives request modules))
        request.cursorIndex stop
      nextCursor := nextCursor request snapshot values.length stop
      completeness := some "known_only"
      stateGeneration := snapshot },
    stop, ?_, answers_of_stop low high progress rfl rfl fun _ => rfl⟩
  simp only [importsList, linkageModule, info, Option.filter_some, unmoved, and_self, decide_true,
    if_true, orRefuse_some, ok_bind]
  rw [nativeValues_listed listed bounded, ok_bind, refuseIf_of_not (by omega), ok_bind, counted,
    ok_bind, emitted, ok_bind, refuseIf_of_not (by simp [steady.unchanged]), number, Nat.zero_add]
  rfl

theorem exportsList_spec {values : List ExportRecord}
    (info : natives.infoFromAddr module.base = some native)
    (unmoved : native.base = module.base ∧ native.size = module.size)
    (listed : natives.exports native = .listed values)
    (bounded : values.length ≤ kMaxNativeRecords)
    (passes : ∀ record ∈ values, ExportPasses build module record)
    (within : request.cursorIndex ≤ values.length) :
    ∃ page stop, exportsList build natives request snapshot modules module = .ok page ∧
      Answers request snapshot (values.mapIdx fun _ => exportVerdict natives request modules)
        stop page := by
  have counted := @countMatched_spec _ (countExport natives request)
    (fun record => matchesQuery natives.toDebuggee request
      [boundedText record.name, boundedText record.undecoratedName,
        boundedText record.forwardName]) values 0 0
    fun index record member => countExport_spec steady index (passes record member)
  have number := @length_reduceOption_mapIdx _
    (fun record => matchesQuery natives.toDebuggee request
      [boundedText record.name, boundedText record.undecoratedName,
        boundedText record.forwardName]) values
    (fun _ => exportVerdict natives request modules) (by
      intro _ record
      rw [exportVerdict]
      split_ifs with isMatch <;> simp [isMatch])
  rcases @emitPage_spec _ request values (emitExport build natives request modules module)
    (fun _ => exportVerdict natives request modules)
    (fun index record member => emitExport_spec index (passes record member)) limit within with
    ⟨stop, low, high, progress, emitted⟩
  refine ⟨
    { module := some module.name
      nativeCount := some values.length
      matchedCount := some
        (values.mapIdx fun _ => exportVerdict natives request modules).reduceOption.length
      items := stretch (verdictAt (values.mapIdx fun _ => exportVerdict natives request modules))
        request.cursorIndex stop
      nextCursor := nextCursor request snapshot values.length stop
      completeness := some "known_only"
      stateGeneration := snapshot },
    stop, ?_, answers_of_stop low high progress rfl rfl fun _ => rfl⟩
  simp only [exportsList, linkageModule, info, Option.filter_some, unmoved, and_self, decide_true,
    if_true, orRefuse_some, ok_bind]
  rw [nativeValues_listed listed bounded, ok_bind, refuseIf_of_not (by omega), ok_bind, counted,
    ok_bind, emitted, ok_bind, refuseIf_of_not (by simp [steady.unchanged]), number, Nat.zero_add]
  rfl

theorem symbolsSearch_spec (silent : request.method ∉ countingMethods) {values : List SymbolRecord}
    (listed : natives.symbols = .listed values) (bounded : values.length ≤ kMaxNativeRecords)
    (passes : ∀ record ∈ values, SymbolPasses build natives request module record)
    (within : request.cursorIndex ≤ values.length) :
    ∃ page stop, symbolsSearch build natives request snapshot modules module = .ok page ∧
      Answers request snapshot (values.mapIdx fun _ => symbolVerdict natives request modules module)
        stop page := by
  rcases @emitPage_spec _ request values (emitSymbol build natives request modules module)
    (fun _ => symbolVerdict natives request modules module)
    (fun index record member => emitSymbol_spec steady index (passes record member)) limit within
    with ⟨stop, low, high, progress, emitted⟩
  refine ⟨
    { items := stretch
        (verdictAt (values.mapIdx fun _ => symbolVerdict natives request modules module))
        request.cursorIndex stop
      nextCursor := nextCursor request snapshot values.length stop
      completeness := some "known_only"
      stateGeneration := snapshot },
    stop, ?_, answers_of_stop low high progress rfl rfl fun counts => absurd counts silent⟩
  rw [symbolsSearch, nativeValues_listed listed bounded, ok_bind, refuseIf_of_not (by omega),
    ok_bind, emitted, ok_bind, refuseIf_of_not (by simp [steady.unchanged])]
  rfl

theorem functionsList_spec (silent : request.method ∉ countingMethods)
    {values : List FunctionRecord} {symbols : List SymbolRecord}
    (listed : natives.functions = .listed values) (bounded : values.length ≤ kMaxNativeRecords)
    (named : natives.symbols = .listed symbols ∧ symbols.length ≤ kMaxNativeRecords ∨
      natives.symbols = .unavailable ∧ symbols = [])
    (passes : ∀ record ∈ values, FunctionPasses build natives module record)
    (within : request.cursorIndex ≤ values.length) :
    ∃ page stop, functionsList build natives request snapshot modules module = .ok page ∧
      Answers request snapshot
        (values.mapIdx fun _ record => functionVerdict natives request modules module
          (functionName natives module symbols record.rvaStart) record) stop page := by
  rcases @functionNames_spec natives module steady symbols named with ⟨names, joined, looks⟩
  rcases @emitPage_spec _ request values (emitFunction build natives request modules module names)
    (fun _ record => functionVerdict natives request modules module
      (functionName natives module symbols record.rvaStart) record)
    (fun index record member => by
      rw [← looks]
      exact emitFunction_spec steady names index (passes record member)) limit within
    with ⟨stop, low, high, progress, emitted⟩
  refine ⟨
    { items := stretch
        (verdictAt (values.mapIdx fun _ record => functionVerdict natives request modules module
          (functionName natives module symbols record.rvaStart) record)) request.cursorIndex stop
      nextCursor := nextCursor request snapshot values.length stop
      completeness := some "known_only"
      stateGeneration := snapshot },
    stop, ?_, answers_of_stop low high progress rfl rfl fun counts => absurd counts silent⟩
  rw [functionsList, nativeValues_listed listed bounded, ok_bind, joined, ok_bind,
    refuseIf_of_not (by omega), ok_bind, emitted, ok_bind,
    refuseIf_of_not (by simp [steady.unchanged])]
  rfl

theorem memoryMap_spec (silent : request.method ∉ countingMethods)
    {selected : Option ModuleRecord} {values : List MemoryPage}
    (select : selectModule natives request = .ok selected)
    (listed : natives.memMap = .listed values) (bounded : values.length ≤ kMaxNativeRecords)
    (passes : ∀ record ∈ values, MemoryPasses request selected record)
    (within : request.cursorIndex ≤ values.length) :
    ∃ page stop, memoryMap natives request snapshot = .ok page ∧
      Answers request snapshot (values.mapIdx fun _ => memoryVerdict request selected) stop page := by
  rcases @emitPage_spec _ request values (emitMemoryPage natives request selected)
    (fun _ => memoryVerdict request selected)
    (fun index record member => emitMemoryPage_spec steady selected index (passes record member))
    limit within with ⟨stop, low, high, progress, emitted⟩
  refine ⟨
    { items := stretch (verdictAt (values.mapIdx fun _ => memoryVerdict request selected))
        request.cursorIndex stop
      nextCursor := nextCursor request snapshot values.length stop
      stateGeneration := snapshot },
    stop, ?_, answers_of_stop low high progress rfl rfl fun counts => absurd counts silent⟩
  rw [memoryMap, select, ok_bind, nativeValues_listed listed bounded, ok_bind,
    refuseIf_of_not (by omega), ok_bind, emitted, ok_bind,
    refuseIf_of_not (by simp [steady.unchanged])]
  rfl

end Handlers

section Chain

variable {build : Build} {natives : Natives} {request : Request} {snapshot : Nat}
  {verdicts : List (Option ListingItem)}

/-- A request that a listing can serve now: the debuggee is paused, and the cursor, if
there is one, is of this snapshot and of these filters. -/
structure Servable (natives : Natives) (snapshot : Nat) (request : Request) : Prop where
  paused : natives.snapshot = some snapshot ∧ natives.debugging = true
  accepted : request.discoveryCursorInvalid = false
  generation : ∀ generation ∈ request.cursorGeneration, generation = snapshot

theorem listingSnapshot_of_servable (servable : Servable natives snapshot request) :
    listingSnapshot natives request = .ok snapshot := by
  rw [listingSnapshot, servable.paused.1, servable.paused.2, Option.filter_some, if_pos rfl,
    orRefuse_some, ok_bind, refuseIf_of_not]
  · rfl
  · simp only [Option.any_eq_true, bne_iff_ne, ne_eq, not_exists, not_and, not_not]
    exact servable.generation

theorem listRecords_of_module (servable : Servable natives snapshot request)
    {modules : List ModuleRecord} {module : ModuleRecord} (restricted : request.method ≠ "memory.map")
    (captured : captureModuleRecords natives.toDebuggee = some modules)
    (unique : uniqueModule natives.toDebuggee modules (utf8 request.module) = some module) :
    listRecords build natives request =
      if request.method = "sections.list" then
        sectionsList build natives request snapshot modules module
      else if request.method = "imports.list" then
        importsList build natives request snapshot modules module
      else if request.method = "exports.list" then
        exportsList build natives request snapshot modules module
      else if request.method = "symbols.search" then
        symbolsSearch build natives request snapshot modules module
      else functionsList build natives request snapshot modules module := by
  rw [listRecords, servable.accepted, refuseIf_of_not (by decide), ok_bind,
    listingSnapshot_of_servable servable, ok_bind, if_neg restricted, captured, orRefuse_some,
    ok_bind, unique, orRefuse_some, ok_bind]

/-- Every listing answers a servable request. -/
theorem listRecords_spec (listing : NativeListing build natives request verdicts)
    (servable : Servable natives snapshot request) (steady : natives.toDebuggee.Steady)
    (limit : 0 < request.pageLimit) (within : request.cursorIndex ≤ verdicts.length) :
    ∃ page stop, listRecords build natives request = .ok page ∧
      Answers request snapshot verdicts stop page := by
  cases listing with
  | sections method captured unique info unmoved bounds listed count passes =>
      rw [List.length_mapIdx] at within
      rw [listRecords_of_module servable (by simp [method]) captured unique, if_pos method]
      exact sectionsList_spec steady limit info unmoved bounds listed count passes within
  | imports method captured unique info unmoved listed bounded passes =>
      rw [List.length_mapIdx] at within
      rw [listRecords_of_module servable (by simp [method]) captured unique,
        if_neg (by simp [method]), if_pos method]
      exact importsList_spec steady limit info unmoved listed bounded passes within
  | exports method captured unique info unmoved listed bounded passes =>
      rw [List.length_mapIdx] at within
      rw [listRecords_of_module servable (by simp [method]) captured unique,
        if_neg (by simp [method]), if_neg (by simp [method]), if_pos method]
      exact exportsList_spec steady limit info unmoved listed bounded passes within
  | symbols method captured unique listed bounded passes =>
      rw [List.length_mapIdx] at within
      rw [listRecords_of_module servable (by simp [method]) captured unique,
        if_neg (by simp [method]), if_neg (by simp [method]), if_neg (by simp [method]),
        if_pos method]
      exact symbolsSearch_spec steady limit (by simp [method, countingMethods]) listed bounded passes
        within
  | functions method captured unique listed bounded named passes =>
      rw [List.length_mapIdx] at within
      rw [listRecords_of_module servable (by simp [method]) captured unique,
        if_neg (by simp [method]), if_neg (by simp [method]), if_neg (by simp [method]),
        if_neg (by simp [method])]
      exact functionsList_spec steady limit (by simp [method, countingMethods]) listed bounded named
        passes within
  | memory method select listed bounded passes =>
      rw [List.length_mapIdx] at within
      rw [listRecords, servable.accepted, refuseIf_of_not (by decide), ok_bind,
        listingSnapshot_of_servable servable, ok_bind, if_pos method]
      exact memoryMap_spec steady limit (by simp [method, countingMethods]) select listed bounded
        passes within

/-- The tests of a native list keep it within the native bounds. -/
theorem NativeListing.length_le (listing : NativeListing build natives request verdicts) :
    verdicts.length ≤ kMaxNativeRecords := by
  cases listing with
  | sections _ _ _ _ _ bounds _ count _ =>
      rw [List.length_mapIdx, kMaxNativeRecords]
      omega
  | imports _ _ _ _ _ _ bounded _ => rwa [List.length_mapIdx]
  | exports _ _ _ _ _ _ bounded _ => rwa [List.length_mapIdx]
  | symbols _ _ _ _ bounded _ => rwa [List.length_mapIdx]
  | functions _ _ _ _ bounded _ _ => rwa [List.length_mapIdx]
  | memory _ _ _ bounded _ => rwa [List.length_mapIdx]

/-- Neither the cursor nor the limit of a request has a say in the verdicts. -/
theorem NativeListing.paged (listing : NativeListing build natives request verdicts)
    (limit index : Nat) (fingerprint generation : Option Nat) (invalid : Bool) :
    NativeListing build natives
      { request with
        pageLimit := limit
        cursorFingerprint := fingerprint
        cursorGeneration := generation
        discoveryCursorInvalid := invalid
        cursorIndex := index } verdicts := by
  cases listing with
  | sections method captured unique info unmoved bounds listed count passes =>
      exact .sections method captured unique info unmoved bounds listed count passes
  | imports method captured unique info unmoved listed bounded passes =>
      exact .imports method captured unique info unmoved listed bounded passes
  | exports method captured unique info unmoved listed bounded passes =>
      exact .exports method captured unique info unmoved listed bounded passes
  | symbols method captured unique listed bounded passes =>
      exact .symbols method captured unique listed bounded passes
  | functions method captured unique listed bounded named passes =>
      exact .functions method captured unique listed bounded named passes
  | memory method select listed bounded passes =>
      exact .memory method select listed bounded passes

/-- The page of a request, and the request for the next one.  The `page`-th request of a
chain sets a limit of its own. -/
def askListing (build : Build) (natives : Natives) (limits : Nat → Nat) :
    Nat × Request → Option (ListingPage × Option (Nat × Request))
  | (page, request) =>
      match listRecords build natives { request with pageLimit := limits page } with
      | .error _ => none
      | .ok listing =>
          match listing.nextCursor with
          | none => some (listing, none)
          | some cursor =>
              (followUp build request cursor).map fun following =>
                (listing, some (page + 1, following))

/-- A request of the chain that lists the same records. -/
structure InChain (build : Build) (natives : Natives) (snapshot : Nat) (method : String)
    (verdicts : List (Option ListingItem)) (request : Request) : Prop
    extends Servable natives snapshot request where
  listing : NativeListing build natives request verdicts
  sameMethod : request.method = method
  fingerprint : ∃ fingerprint < 2 ^ 64, request.cursorFingerprint = some fingerprint

/-- One step along the chain. -/
theorem askListing_covers {method : String} {page : Nat} {limits : Nat → Nat}
    (inChain : InChain build natives snapshot method verdicts request)
    (steady : natives.toDebuggee.Steady) (narrow : build.limit ≤ 2 ^ 64)
    (wide : kMaxNativeRecords < build.limit) (generationFits : snapshot < 2 ^ 64)
    (limit : 0 < limits page) (within : request.cursorIndex ≤ verdicts.length) :
    ∃ listing next, askListing build natives limits (page, request) = some (listing, next) ∧
      (method ∈ countingMethods → listing.matchedCount = some verdicts.reduceOption.length) ∧
      Collection.Covers (verdictAt verdicts) verdicts.length (fun asked => asked.2.cursorIndex)
        (fun asked => InChain build natives snapshot method verdicts asked.2) request.cursorIndex
        ⟨listing.items, next⟩ := by
  have limited := inChain.listing.paged (limits page) request.cursorIndex request.cursorFingerprint
    request.cursorGeneration request.discoveryCursorInvalid
  have servable : Servable natives snapshot { request with pageLimit := limits page } :=
    ⟨inChain.paused, inChain.accepted, inChain.generation⟩
  rcases listRecords_spec limited servable steady limit within with
    ⟨listing, stop, listed, answers⟩
  rcases answers with ⟨low, high, progress, items, next, matched⟩
  rw [inChain.sameMethod] at matched
  by_cases complete : stop < verdicts.length
  · rw [nextCursor, if_pos complete] at next
    rcases inChain.fingerprint with ⟨fingerprint, fingerprintFits, isFingerprint⟩
    have records := inChain.listing.length_le
    have follows := @followUp_discoveryCursor build request snapshot stop narrow generationFits
      (by rw [isFingerprint]; exact fingerprintFits) (by omega)
    have cursor : discoveryCursor { request with pageLimit := limits page } snapshot stop =
        discoveryCursor request snapshot stop := rfl
    rw [cursor] at next
    refine ⟨listing, some (page + 1,
      { request with
        cursorFingerprint := some (request.cursorFingerprint.getD 0)
        cursorGeneration := some snapshot
        discoveryCursorInvalid := false
        cursorIndex := stop }), ?_, matched, ?_⟩
    · simp only [askListing, listed, next, follows, Option.map_some]
    · refine .of_next ?_ (progress (Nat.lt_of_le_of_lt low complete)) high items
      exact
        { paused := inChain.paused
          accepted := rfl
          generation := fun generation isGeneration => (Option.some.inj isGeneration).symm
          listing := inChain.listing.paged _ _ _ _ _
          sameMethod := inChain.sameMethod
          fingerprint := ⟨fingerprint, fingerprintFits, by rw [isFingerprint, Option.getD_some]⟩ }
  · rw [nextCursor, if_neg complete] at next
    have ends : stop = verdicts.length := by omega
    refine ⟨listing, none, by simp only [askListing, listed, next], matched, ?_⟩
    rw [items, ends]
    exact .last

/-- Following the cursors of a listing ends, whatever limit each page has, and the pages
together have the items of the matching records, in native order and each once.  The
methods that count them report their number on every page. -/
theorem listing_complete (listing : NativeListing build natives request verdicts)
    (paused : natives.snapshot = some snapshot ∧ natives.debugging = true)
    (steady : natives.toDebuggee.Steady)
    (fresh : request.cursorIndex = 0 ∧ request.cursorGeneration = none ∧
      request.discoveryCursorInvalid = false)
    (fingerprint : ∃ fingerprint < 2 ^ 64, request.cursorFingerprint = some fingerprint)
    (narrow : build.limit ≤ 2 ^ 64) (wide : kMaxNativeRecords < build.limit)
    (generationFits : snapshot < 2 ^ 64) {limits : Nat → Nat}
    (ranged : ∀ page, 1 ≤ limits page ∧ limits page ≤ 256) {pages : Nat}
    (enough : verdicts.length < pages) :
    ∃ listings, follow (askListing build natives limits) pages (0, request) = some listings ∧
      listings.flatMap ListingPage.items = verdicts.reduceOption ∧
      (request.method ∈ countingMethods → ∀ page ∈ listings,
        page.matchedCount = some (listings.flatMap ListingPage.items).length) := by
  have inChain : InChain build natives snapshot request.method verdicts request :=
    { paused := paused
      accepted := fresh.2.2
      generation := by simp [fresh.2.1]
      listing := listing
      sameMethod := rfl
      fingerprint := fingerprint }
  rcases @follow_of_covers _ _ _ (askListing build natives limits) ListingPage.items
      (fun page => request.method ∈ countingMethods →
        page.matchedCount = some verdicts.reduceOption.length)
      (verdictAt verdicts) verdicts.length (fun asked => asked.2.cursorIndex)
      (fun asked => InChain build natives snapshot request.method verdicts asked.2)
      (fun asked proper within =>
        askListing_covers proper steady narrow wide generationFits (ranged asked.1).1 within)
      (0, request) inChain (by simp only [fresh.1]; exact Nat.zero_le _) pages
      (by simp only [fresh.1]; omega) with ⟨listings, followed, notes, items⟩
  simp only [fresh.1, stretch_verdictAt] at items
  refine ⟨listings, followed, items, fun counts page member => ?_⟩
  rw [items]
  exact notes page member counts

end Chain

/-! ## The data sections of a module -/

/-- An ASCII letter in lower case. -/
def lowered (byte : UInt8) : UInt8 :=
  if 0x41 ≤ byte ∧ byte ≤ 0x5a then byte + 0x20 else byte

/-- The first place of an ASCII text in another one, without regard to case. -/
def findAscii (haystack needle : List UInt8) : Option (Nat × Nat) :=
  ((List.range (haystack.length + 1 - needle.length)).find? fun place =>
    (haystack.drop place).take needle.length |>.map lowered |> (· == needle.map lowered)).map
    fun place => (place, needle.length)

/-- The only module of the sample. -/
def exampleModule : ModuleRecord where
  base := 0x400000
  size := 0x5000
  name := utf8 "sample.exe"

/-- The four sections of a small executable, in buffers with a terminator. -/
def exampleSections : List SectionRecord :=
  [{ name := utf8 ".text" ++ [0, 0], addr := 0x401000, size := 0x800 },
    { name := utf8 ".rdata" ++ [0], addr := 0x402000, size := 0x400 },
    { name := utf8 ".data" ++ [0, 0], addr := 0x403000, size := 0x200 },
    { name := utf8 ".reloc" ++ [0], addr := 0x404000, size := 0x100 }]

/-- A debuggee with that module. -/
def exampleNatives : Natives where
  snapshot := some 7
  debugging := true
  modules := .listed [exampleModule]
  equalsIgnoreCase left right := left.map lowered == right.map lowered
  findText := findAscii
  memRead _ _ := none
  expired _ := false
  current _ := true
  infoFromAddr _ := some { base := 0x400000, size := 0x5000, sectionCount := 4 }
  sections _ := .listed exampleSections
  imports _ := .unavailable
  exports _ := .unavailable
  symbols := .unavailable
  functions := .unavailable
  memMap := .unavailable

/-- A request for its sections. -/
def exampleListing : Request where
  requestId := "6f9619ff-8b86-4d11-b42d-00c04fc964ff"
  method := "sections.list"
  deadlineUnixMs := 1760000000000
  mutation := false
  module := "Sample.exe"
  query := "DATA"
  cursorFingerprint := some 1

/-- The first page has room for one record, the others for the rest. -/
def exampleLimits (page : Nat) : Nat :=
  if page = 0 then 1 else 256

theorem listing_complete_sections :
    ∃ listings, follow (askListing alternatingBuild exampleNatives exampleLimits) 5
        (0, exampleListing) = some listings ∧
      listings.flatMap ListingPage.items =
        [sectionItemOf alternatingBuild [exampleModule] 1 (utf8 ".rdata")
            { name := utf8 ".rdata" ++ [0], addr := 0x402000, size := 0x400 },
          sectionItemOf alternatingBuild [exampleModule] 2 (utf8 ".data")
            { name := utf8 ".data" ++ [0, 0], addr := 0x403000, size := 0x200 }] ∧
      ∀ page ∈ listings, page.matchedCount = some 2 := by
  have unique : uniqueModule exampleNatives.toDebuggee [exampleModule] (utf8 exampleListing.module) =
      some exampleModule := by
    decide
  have listing : NativeListing alternatingBuild exampleNatives exampleListing
      (exampleSections.mapIdx
        (sectionVerdict alternatingBuild exampleNatives exampleListing [exampleModule])) :=
    .sections rfl rfl unique rfl ⟨rfl, rfl⟩ (by decide) rfl rfl (by
      intro record member
      simp only [exampleSections, List.mem_cons, List.not_mem_nil, or_false] at member
      rcases member with rfl | rfl | rfl | rfl <;> constructor <;> decide)
  have ranged : ∀ page, 1 ≤ exampleLimits page ∧ exampleLimits page ≤ 256 := by
    intro page
    rw [exampleLimits]
    split_ifs <;> decide
  rcases listing_complete listing ⟨rfl, rfl⟩ ⟨fun _ => rfl, fun _ => rfl⟩ ⟨rfl, rfl, rfl⟩
      ⟨1, by decide, rfl⟩ (by decide) (by decide) (by decide : 7 < 2 ^ 64) ranged
      (by decide : _ < 5) with
    ⟨listings, followed, items, matched⟩
  have found : (exampleSections.mapIdx
      (sectionVerdict alternatingBuild exampleNatives exampleListing [exampleModule])).reduceOption =
      [sectionItemOf alternatingBuild [exampleModule] 1 (utf8 ".rdata")
          { name := utf8 ".rdata" ++ [0], addr := 0x402000, size := 0x400 },
        sectionItemOf alternatingBuild [exampleModule] 2 (utf8 ".data")
          { name := utf8 ".data" ++ [0, 0], addr := 0x403000, size := 0x200 }] := by
    decide
  rw [found] at items
  refine ⟨listings, followed, items, fun page member => ?_⟩
  rw [matched (by decide) page member, items]
  rfl

end X64dbgMcp.Plugin
