import Mathlib.Data.List.ReduceOption
import X64dbgMcp.Plugin.Listings
import X64dbgMcp.Plugin.SearchPaging

/-!
# Following a listing

The verdict on a native record is its item, or nothing when the filters leave it out.
It depends on the record and the filters alone, and both loops of a handler come to
the same one: what the first loop counts is what the pages of the second one emit.
-/

namespace X64dbgMcp.Plugin

open Collection Text

/-! ## The loops -/

@[simp]
theorem refuseIf_of_not {condition : Prop} [Decidable condition] {reason : ErrorResponse}
    (passes : ¬condition) : refuseIf condition reason = .ok () :=
  if_neg passes

@[simp]
theorem orRefuse_some {α : Type} (value : α) (reason : ErrorResponse) :
    orRefuse (some value) reason = .ok value :=
  rfl

@[simp]
theorem ok_bind {α β : Type} (value : α) (next : α → Except ErrorResponse β) :
    (Except.ok value >>= next) = next value :=
  rfl

theorem testDeadline_of_steady {debuggee : Debuggee} (steady : debuggee.Steady)
    (tests index : Nat) (message : String) :
    testDeadline debuggee tests index message = .ok () := by
  apply refuseIf_of_not
  simp [steady.inTime]

theorem nativeValues_listed {α : Type} {list : NativeList α} {values : List α}
    {unavailable exceeds : ErrorResponse} (listed : list = .listed values)
    (bounded : values.length ≤ kMaxNativeRecords) :
    nativeValues list unavailable exceeds = .ok values := by
  rw [listed, nativeValues, if_neg (Nat.not_lt.mpr bounded)]

/-- The texts that a record check lets through. -/
theorem fixedString_of_isSome {buffer : List UInt8} (valid : (fixedString buffer).isSome = true) :
    fixedString buffer = some (boundedText buffer) := by
  rw [fixedString] at valid ⊢
  split_ifs at valid ⊢ with unterminated isUtf8
  · cases valid
  · rfl
  · cases valid

theorem countMatched_spec {α : Type} {judge : Nat → α → Except ErrorResponse Bool}
    {accept : α → Bool} (values : List α) (index matched : Nat)
    (judged : ∀ index, ∀ value ∈ values, judge index value = .ok (accept value)) :
    countMatched judge index matched values = .ok (matched + values.countP accept) := by
  induction values generalizing index matched with
  | nil => rfl
  | cons value rest ih =>
      have tail := fun matched => ih (index + 1) matched fun index value member =>
        judged index value (List.mem_cons_of_mem _ member)
      rw [countMatched, judged index value List.mem_cons_self, ok_bind, tail, List.countP_cons]
      by_cases accepted : accept value = true
      · rw [if_pos accepted, if_pos accepted]
        congr 1
        omega
      · rw [if_neg accepted, if_neg accepted, Nat.add_zero]

/-- What the records from a position on put into a page. -/
def verdictAt (verdicts : List (Option ListingItem)) (index : Nat) : List ListingItem :=
  (verdicts[index]?).join.toList

theorem stretch_verdictAt (verdicts : List (Option ListingItem)) :
    stretch (verdictAt verdicts) 0 verdicts.length = verdicts.reduceOption := by
  induction verdicts using List.reverseRecOn with
  | nil => rfl
  | append_singleton front last ih =>
      have before : stretch (verdictAt (front ++ [last])) 0 front.length =
          stretch (verdictAt front) 0 front.length := by
        apply stretch_congr
        intro index _ below
        rw [verdictAt, verdictAt, List.getElem?_append_left below]
      rw [List.length_append, List.length_singleton, stretch_succ _ (Nat.zero_le _), before, ih,
        List.reduceOption_append]
      cases last <;> simp [verdictAt]

/-- The loop that emits, on records whose verdicts are no errors. -/
theorem emitPage_spec {α : Type} {request : Request} {values : List α}
    {judge : Nat → α → Except ErrorResponse (Option ListingItem)}
    {verdict : Nat → α → Option ListingItem}
    (judged : ∀ index, ∀ value ∈ values, judge index value = .ok (verdict index value))
    (limit : 0 < request.pageLimit) (within : request.cursorIndex ≤ values.length) :
    ∃ stop, request.cursorIndex ≤ stop ∧ stop ≤ values.length ∧
      (request.cursorIndex < values.length → request.cursorIndex < stop) ∧
      emitPage request values judge =
        .ok (stretch (verdictAt (values.mapIdx verdict)) request.cursorIndex stop, stop) := by
  have judgedAt : ∀ index, request.cursorIndex ≤ index →
      index < request.cursorIndex + (values.length - request.cursorIndex) →
      judgeAt values judge index = .ok (verdictAt (values.mapIdx verdict) index) := by
    intro index _ below
    have inside : index < values.length := by omega
    simp [judgeAt, verdictAt, List.getElem?_eq_getElem inside,
      judged index values[index] (List.getElem_mem inside), Except.map]
  rcases @scan_spec _ _ _ _ request.pageLimit _ _ [] judgedAt with
    ⟨stop, low, high, progress, scanned, -⟩
  refine ⟨stop, low, by omega, fun more => progress limit (by omega), ?_⟩
  rw [emitPage, scanned, List.nil_append]

/-! ## Verdicts -/

section Verdicts

variable (build : Build) (natives : Natives) (request : Request) (modules : List ModuleRecord)
  (module : ModuleRecord)

/-- What a section contributes to the listing. -/
def sectionVerdict (index : Nat) (record : SectionRecord) : Option ListingItem :=
  if matchesQuery natives.toDebuggee request [boundedText record.name] then
    some (sectionItemOf build modules index (boundedText record.name) record)
  else none

/-- The section does not make the request fail. -/
structure SectionPasses (record : SectionRecord) : Prop where
  name : (fixedString record.name).isSome = true
  above : module.base ≤ record.addr
  inside : record.addr - module.base < module.size
  ends : record.size ≤ module.size - (record.addr - module.base)

/-- What an import contributes to the listing. -/
def importVerdict (record : ImportRecord) : Option ListingItem :=
  if matchesQuery natives.toDebuggee request
      [boundedText record.name, boundedText record.undecoratedName] then
    some (importItemOf build natives modules (boundedText record.name)
      (boundedText record.undecoratedName) record)
  else none

/-- The import does not make the request fail. -/
structure ImportPasses (record : ImportRecord) : Prop where
  name : (fixedString record.name).isSome = true
  undecorated : (fixedString record.undecoratedName).isSome = true
  inside : record.iatRva < module.size
  fits : overflows build module.base record.iatRva = false
  address : record.iatVa = module.base + record.iatRva

/-- What an export contributes to the listing. -/
def exportVerdict (record : ExportRecord) : Option ListingItem :=
  if matchesQuery natives.toDebuggee request
      [boundedText record.name, boundedText record.undecoratedName,
        boundedText record.forwardName] then
    some (exportItemOf modules (boundedText record.name) (boundedText record.undecoratedName)
      (boundedText record.forwardName) record)
  else none

/-- The export does not make the request fail. -/
structure ExportPasses (record : ExportRecord) : Prop where
  name : (fixedString record.name).isSome = true
  undecorated : (fixedString record.undecoratedName).isSome = true
  forward : (fixedString record.forwardName).isSome = true
  inside : record.rva < module.size
  fits : overflows build module.base record.rva = false
  address : record.va = module.base + record.rva
  forwarded : record.forwarded = true → boundedText record.forwardName ≠ []

/-- A symbol of the module whose name the query finds. -/
def symbolMatches (record : SymbolRecord) : Bool :=
  natives.equalsIgnoreCase (boundedText record.mod) module.name &&
    utf8OrdinalContainsIgnoreCase natives.toDebuggee (boundedText record.name)
      (utf8 request.query)

/-- What a symbol contributes to the listing. -/
def symbolVerdict (record : SymbolRecord) : Option ListingItem :=
  if symbolMatches natives request module record then some (symbolItemOf modules module record)
  else none

/-- Only the records that match are checked. -/
def SymbolPasses (record : SymbolRecord) : Prop :=
  symbolMatches natives request module record = true →
    record.rva < module.size ∧ overflows build module.base record.rva = false

/-- The name of a function: the first function symbol of the module at its address. -/
def functionName (symbols : List SymbolRecord) (rva : Nat) : Option (List UInt8) :=
  (symbols.find? fun record =>
    decide (record.type = .function) &&
      natives.equalsIgnoreCase (boundedText record.mod) module.name &&
      decide (record.rva = rva)).map fun record => boundedText record.name

/-- A function that lies in the module. -/
def functionBelongs (record : FunctionRecord) : Bool :=
  natives.equalsIgnoreCase (boundedText record.mod) module.name &&
    decide (record.rvaStart ≤ record.rvaEnd) && decide (record.rvaEnd < module.size)

/-- What a function contributes to the listing. -/
def functionVerdict (name : Option (List UInt8)) (record : FunctionRecord) : Option ListingItem :=
  if functionBelongs natives module record &&
      ((utf8 request.query).isEmpty || name.any fun text =>
        utf8OrdinalContainsIgnoreCase natives.toDebuggee text (utf8 request.query)) then
    some (functionItemOf modules module name record)
  else none

/-- The function does not make the request fail. -/
def FunctionPasses (record : FunctionRecord) : Prop :=
  functionBelongs natives module record = true → overflows build module.base record.rvaEnd = false

/-- A page of memory that the two flags leave in. -/
def memoryAdmitted (record : MemoryPage) : Bool :=
  (!request.committedOnly || record.state == memCommit) &&
    (!request.executableOnly || isExecutableProtection record.protect)

/-- The page overlaps the module, when the map is restricted to one. -/
def memorySelected (selected : Option ModuleRecord) (record : MemoryPage) : Bool :=
  selected.all fun module =>
    halfOpenRangesOverlap record.base record.size module.base module.size == some true

/-- What a page of memory contributes to the listing. -/
def memoryVerdict (selected : Option ModuleRecord) (record : MemoryPage) : Option ListingItem :=
  if memoryAdmitted request record && memorySelected selected record then
    some (memoryItemOf request record)
  else none

/-- The page does not make the request fail. -/
def MemoryPasses (selected : Option ModuleRecord) (record : MemoryPage) : Prop :=
  memoryAdmitted request record = true → ∀ module ∈ selected,
    (halfOpenRangesOverlap record.base record.size module.base module.size).isSome = true

end Verdicts

/-- A list that a listing method reads, with the verdicts on its records in native order:
the handler's tests of the list and of every record pass. -/
inductive NativeListing (build : Build) (natives : Natives) (request : Request) :
    List (Option ListingItem) → Prop
  | sections {modules : List ModuleRecord} {module : ModuleRecord} {native : NativeModule}
      {values : List SectionRecord} (method : request.method = "sections.list")
      (captured : captureModuleRecords natives.toDebuggee = some modules)
      (unique : uniqueModule natives.toDebuggee modules (utf8 request.module) = some module)
      (info : natives.infoFromAddr module.base = some native)
      (unmoved : native.base = module.base ∧ native.size = module.size)
      (bounds : native.sectionCount ≤ 4096 ∧ module.size ≠ 0 ∧
        overflows build module.base module.size = false)
      (listed : natives.sections module.base = .listed values)
      (count : (values.length : Int) = native.sectionCount)
      (passes : ∀ record ∈ values, SectionPasses module record) :
      NativeListing build natives request
        (values.mapIdx (sectionVerdict build natives request modules))
  | imports {modules : List ModuleRecord} {module : ModuleRecord} {native : NativeModule}
      {values : List ImportRecord} (method : request.method = "imports.list")
      (captured : captureModuleRecords natives.toDebuggee = some modules)
      (unique : uniqueModule natives.toDebuggee modules (utf8 request.module) = some module)
      (info : natives.infoFromAddr module.base = some native)
      (unmoved : native.base = module.base ∧ native.size = module.size)
      (listed : natives.imports native = .listed values)
      (bounded : values.length ≤ kMaxNativeRecords)
      (passes : ∀ record ∈ values, ImportPasses build module record) :
      NativeListing build natives request
        (values.mapIdx fun _ => importVerdict build natives request modules)
  | exports {modules : List ModuleRecord} {module : ModuleRecord} {native : NativeModule}
      {values : List ExportRecord} (method : request.method = "exports.list")
      (captured : captureModuleRecords natives.toDebuggee = some modules)
      (unique : uniqueModule natives.toDebuggee modules (utf8 request.module) = some module)
      (info : natives.infoFromAddr module.base = some native)
      (unmoved : native.base = module.base ∧ native.size = module.size)
      (listed : natives.exports native = .listed values)
      (bounded : values.length ≤ kMaxNativeRecords)
      (passes : ∀ record ∈ values, ExportPasses build module record) :
      NativeListing build natives request
        (values.mapIdx fun _ => exportVerdict natives request modules)
  | symbols {modules : List ModuleRecord} {module : ModuleRecord} {values : List SymbolRecord}
      (method : request.method = "symbols.search")
      (captured : captureModuleRecords natives.toDebuggee = some modules)
      (unique : uniqueModule natives.toDebuggee modules (utf8 request.module) = some module)
      (listed : natives.symbols = .listed values)
      (bounded : values.length ≤ kMaxNativeRecords)
      (passes : ∀ record ∈ values, SymbolPasses build natives request module record) :
      NativeListing build natives request
        (values.mapIdx fun _ => symbolVerdict natives request modules module)
  | functions {modules : List ModuleRecord} {module : ModuleRecord}
      {values : List FunctionRecord} {symbols : List SymbolRecord}
      (method : request.method = "functions.list")
      (captured : captureModuleRecords natives.toDebuggee = some modules)
      (unique : uniqueModule natives.toDebuggee modules (utf8 request.module) = some module)
      (listed : natives.functions = .listed values)
      (bounded : values.length ≤ kMaxNativeRecords)
      (named : natives.symbols = .listed symbols ∧ symbols.length ≤ kMaxNativeRecords ∨
        natives.symbols = .unavailable ∧ symbols = [])
      (passes : ∀ record ∈ values, FunctionPasses build natives module record) :
      NativeListing build natives request
        (values.mapIdx fun _ record => functionVerdict natives request modules module
          (functionName natives module symbols record.rvaStart) record)
  | memory {selected : Option ModuleRecord} {values : List MemoryPage}
      (method : request.method = "memory.map")
      (select : selectModule natives request = .ok selected)
      (listed : natives.memMap = .listed values)
      (bounded : values.length ≤ kMaxNativeRecords)
      (passes : ∀ record ∈ values, MemoryPasses request selected record) :
      NativeListing build natives request
        (values.mapIdx fun _ => memoryVerdict request selected)

/-! ## Both loops come to the verdict -/

section Judges

variable {build : Build} {natives : Natives} {request : Request} {modules : List ModuleRecord}
  {module : ModuleRecord}

/-- The emitting loops ask for the opposite of what the counting loops ask. -/
theorem not_matchesQuery (debuggee : Debuggee) (request : Request) (texts : List (List UInt8)) :
    (!matchesQuery debuggee request texts) =
      (!(utf8 request.query).isEmpty &&
        texts.all fun text => !utf8OrdinalContainsIgnoreCase debuggee text (utf8 request.query)) := by
  rw [matchesQuery, Bool.not_or, List.not_any_eq_all_not]

theorem countSection_spec (steady : natives.toDebuggee.Steady) (index : Nat)
    {record : SectionRecord} (passes : SectionPasses module record) :
    countSection natives request module index record =
      .ok (matchesQuery natives.toDebuggee request [boundedText record.name]) := by
  have inside := passes.inside
  have ends := passes.ends
  rw [countSection, testDeadline_of_steady steady, fixedString_of_isSome passes.name]
  simp only [ok_bind, orRefuse_some, refuseIf_of_not (Nat.not_lt.mpr passes.above)]
  rw [refuseIf_of_not (by omega)]
  rfl

theorem emitSection_spec (index : Nat) {record : SectionRecord}
    (passes : SectionPasses module record) :
    emitSection build natives request modules index record =
      .ok (sectionVerdict build natives request modules index record) := by
  have opposite := not_matchesQuery natives.toDebuggee request
    [boundedText record.name]
  simp only [List.all_cons, List.all_nil, Bool.and_true] at opposite
  rw [emitSection, fixedString_of_isSome passes.name]
  simp only [ok_bind, orRefuse_some]
  rw [← opposite, sectionVerdict]
  cases matchesQuery natives.toDebuggee request [boundedText record.name] <;> rfl

theorem countImport_spec (steady : natives.toDebuggee.Steady) (index : Nat)
    {record : ImportRecord} (passes : ImportPasses build module record) :
    countImport natives request index record =
      .ok (matchesQuery natives.toDebuggee request
        [boundedText record.name, boundedText record.undecoratedName]) := by
  rw [countImport, testDeadline_of_steady steady, fixedString_of_isSome passes.name,
    fixedString_of_isSome passes.undecorated]
  rfl

theorem emitImport_spec (index : Nat) {record : ImportRecord}
    (passes : ImportPasses build module record) :
    emitImport build natives request modules module index record =
      .ok (importVerdict build natives request modules record) := by
  have inside := passes.inside
  have opposite := not_matchesQuery natives.toDebuggee request
    [boundedText record.name, boundedText record.undecoratedName]
  simp only [List.all_cons, List.all_nil, Bool.and_true, ← Bool.and_assoc] at opposite
  rw [emitImport, fixedString_of_isSome passes.name, fixedString_of_isSome passes.undecorated]
  simp only [ok_bind, orRefuse_some]
  rw [refuseIf_of_not (by simp [passes.fits, passes.address, inside]), ok_bind, ← opposite,
    importVerdict]
  cases matchesQuery natives.toDebuggee request
    [boundedText record.name, boundedText record.undecoratedName] <;> rfl

theorem countExport_spec (steady : natives.toDebuggee.Steady) (index : Nat)
    {record : ExportRecord} (passes : ExportPasses build module record) :
    countExport natives request index record =
      .ok (matchesQuery natives.toDebuggee request
        [boundedText record.name, boundedText record.undecoratedName,
          boundedText record.forwardName]) := by
  rw [countExport, testDeadline_of_steady steady, fixedString_of_isSome passes.name,
    fixedString_of_isSome passes.undecorated, fixedString_of_isSome passes.forward]
  rfl

theorem emitExport_spec (index : Nat) {record : ExportRecord}
    (passes : ExportPasses build module record) :
    emitExport build natives request modules module index record =
      .ok (exportVerdict natives request modules record) := by
  have inside := passes.inside
  have opposite := not_matchesQuery natives.toDebuggee request
    [boundedText record.name, boundedText record.undecoratedName, boundedText record.forwardName]
  simp only [List.all_cons, List.all_nil, Bool.and_true, ← Bool.and_assoc] at opposite
  rw [emitExport, fixedString_of_isSome passes.name, fixedString_of_isSome passes.undecorated,
    fixedString_of_isSome passes.forward]
  simp only [ok_bind, orRefuse_some]
  rw [refuseIf_of_not (by simpa [passes.fits, passes.address, inside] using passes.forwarded),
    ok_bind, ← opposite, exportVerdict]
  cases matchesQuery natives.toDebuggee request
    [boundedText record.name, boundedText record.undecoratedName,
      boundedText record.forwardName] <;> rfl

theorem emitSymbol_spec (steady : natives.toDebuggee.Steady) (index : Nat)
    {record : SymbolRecord} (passes : SymbolPasses build natives request module record) :
    emitSymbol build natives request modules module index record =
      .ok (symbolVerdict natives request modules module record) := by
  rw [emitSymbol, testDeadline_of_steady steady, ok_bind, ← Bool.not_and]
  by_cases isMatch : symbolMatches natives request module record = true
  · rcases passes isMatch with ⟨inside, fits⟩
    rw [symbolVerdict, if_pos isMatch]
    rw [symbolMatches] at isMatch
    rw [isMatch, if_neg (by decide), refuseIf_of_not (by simp [fits, inside])]
    rfl
  · rw [symbolVerdict, if_neg isMatch]
    rw [symbolMatches, Bool.not_eq_true] at isMatch
    rw [isMatch]
    rfl

theorem emitFunction_spec (steady : natives.toDebuggee.Steady)
    (names : List (Nat × List UInt8)) (index : Nat) {record : FunctionRecord}
    (passes : FunctionPasses build natives module record) :
    emitFunction build natives request modules module names index record =
      .ok (functionVerdict natives request modules module (names.lookup record.rvaStart) record) := by
  have outside : (!natives.equalsIgnoreCase (boundedText record.mod) module.name ||
      decide (record.rvaEnd < record.rvaStart) || decide (module.size ≤ record.rvaEnd)) =
      !functionBelongs natives module record := by
    simp [functionBelongs, ← decide_not]
  rw [emitFunction, testDeadline_of_steady steady, ok_bind, outside]
  by_cases belongs : functionBelongs natives module record = true
  · rw [functionVerdict, belongs, Bool.true_and, Bool.not_true, if_neg (by decide),
      refuseIf_of_not (by simp [passes belongs])]
    simp only [ok_bind]
    cases (utf8 request.query).isEmpty <;>
      cases (names.lookup record.rvaStart).any fun name =>
        utf8OrdinalContainsIgnoreCase natives.toDebuggee name (utf8 request.query) <;> rfl
  · rw [Bool.not_eq_true] at belongs
    rw [functionVerdict, belongs]
    rfl

theorem emitMemoryPage_spec (steady : natives.toDebuggee.Steady) (selected : Option ModuleRecord)
    (index : Nat) {record : MemoryPage} (passes : MemoryPasses request selected record) :
    emitMemoryPage natives request selected index record =
      .ok (memoryVerdict request selected record) := by
  unfold emitMemoryPage
  rw [testDeadline_of_steady steady, ok_bind, refuseIf_of_not (by simp [steady.unchanged]), ok_bind]
  by_cases admitted : memoryAdmitted request record = true
  · have flags := admitted
    simp only [memoryAdmitted, Bool.and_eq_true, Bool.or_eq_true, Bool.not_eq_true', beq_iff_eq]
      at flags
    have committed : (request.committedOnly && record.state != memCommit) = false := by
      rcases flags.1 with off | state
      · rw [off, Bool.false_and]
      · rw [state, bne_self_eq_false, Bool.and_false]
    have executable : (request.executableOnly && !isExecutableProtection record.protect) = false := by
      rcases flags.2 with off | protect
      · rw [off, Bool.false_and]
      · rw [protect, Bool.not_true, Bool.and_false]
    rw [committed, executable, if_neg (by decide), if_neg (by decide), memoryVerdict, admitted]
    cases selected with
    | none => rfl
    | some module =>
        rcases Option.isSome_iff_exists.mp (passes admitted module rfl) with ⟨overlap, known⟩
        simp only [memorySelected, Option.all_some, known, orRefuse_some, ok_bind]
        cases overlap <;> rfl
  · have kept : memoryAdmitted request record = false := by rwa [Bool.not_eq_true] at admitted
    have nothing : memoryVerdict request selected record = none := by
      rw [memoryVerdict, kept]
      rfl
    rw [nothing]
    by_cases committed : (request.committedOnly && record.state != memCommit) = true
    · rw [if_pos committed]
      rfl
    · have executable : (request.executableOnly && !isExecutableProtection record.protect) = true := by
        rw [memoryAdmitted] at kept
        revert kept committed
        cases request.committedOnly <;> cases request.executableOnly <;>
          cases isExecutableProtection record.protect <;> simp
      rw [if_neg committed, if_pos executable]
      rfl

theorem lookup_append_singleton (names : List (Nat × List UInt8)) (rva other : Nat)
    (text : List UInt8) :
    (names ++ [(other, text)]).lookup rva =
      (names.lookup rva).or (if rva = other then some text else none) := by
  induction names with
  | nil =>
      by_cases same : rva = other
      · simp [same]
      · simp [List.lookup_cons, beq_false_of_ne same, same]
  | cons name rest ih =>
      rcases name with ⟨key, value⟩
      rw [List.cons_append, List.lookup_cons, List.lookup_cons]
      cases rva == key with
      | true => rfl
      | false => exact ih

/-- A symbol that can name a function of the module. -/
theorem functionName_cons (record : SymbolRecord) (rest : List SymbolRecord) (rva : Nat) :
    functionName natives module (record :: rest) rva =
      if (record.type = .function ∧
          natives.equalsIgnoreCase (boundedText record.mod) module.name = true) ∧ record.rva = rva
      then some (boundedText record.name)
      else functionName natives module rest rva := by
  rw [functionName, functionName, List.find?_cons]
  split_ifs with names
  · simp [names]
  · have other : (decide (record.type = .function) &&
        natives.equalsIgnoreCase (boundedText record.mod) module.name &&
        decide (record.rva = rva)) = false := by
      simpa [Bool.and_eq_true] using names
    rw [other]

/-- The join keeps the first name of an address. -/
theorem joinNames_spec (steady : natives.toDebuggee.Steady) (symbols : List SymbolRecord)
    (index : Nat) (names : List (Nat × List UInt8)) :
    ∃ joined, joinNames natives module index names symbols = .ok joined ∧
      ∀ rva, joined.lookup rva =
        (names.lookup rva).or (functionName natives module symbols rva) := by
  induction symbols generalizing index names with
  | nil =>
      refine ⟨names, rfl, fun rva => ?_⟩
      rw [functionName, List.find?_nil, Option.map_none, Option.or_none]
  | cons record rest ih =>
      rw [joinNames, testDeadline_of_steady steady, ok_bind]
      split_ifs with first
      · rcases first with ⟨isFunction, belongs, unnamed⟩
        rcases ih (index + 1) (names ++ [(record.rva, boundedText record.name)]) with
          ⟨joined, result, looks⟩
        refine ⟨joined, result, fun rva => ?_⟩
        rw [looks, lookup_append_singleton, functionName_cons]
        by_cases same : record.rva = rva
        · rw [if_pos same.symm, if_pos ⟨⟨isFunction, belongs⟩, same⟩, Option.or_assoc,
            Option.some_or]
        · rw [if_neg (Ne.symm same), if_neg (fun names => same names.2), Option.or_none]
      · rcases ih (index + 1) names with ⟨joined, result, looks⟩
        refine ⟨joined, result, fun rva => ?_⟩
        rw [looks, functionName_cons]
        split_ifs with names
        · rcases names with ⟨⟨isFunction, belongs⟩, rfl⟩
          -- an earlier symbol has named this address
          cases held : names.lookup record.rva with
          | none => exact absurd ⟨isFunction, belongs, by rw [held]; rfl⟩ first
          | some text => rfl
        · rfl

theorem functionNames_spec (steady : natives.toDebuggee.Steady) {symbols : List SymbolRecord}
    (named : natives.symbols = .listed symbols ∧ symbols.length ≤ kMaxNativeRecords ∨
      natives.symbols = .unavailable ∧ symbols = []) :
    ∃ names, functionNames natives module = .ok names ∧
      ∀ rva, names.lookup rva = functionName natives module symbols rva := by
  rcases named with ⟨listed, bounded⟩ | ⟨unavailable, rfl⟩
  · rcases @joinNames_spec natives module steady symbols 0 [] with ⟨names, joined, looks⟩
    refine ⟨names, ?_, looks⟩
    rw [functionNames, listed]
    simp only [nativeValues_listed rfl bounded, ok_bind]
    exact joined
  · refine ⟨[], by rw [functionNames, unavailable], fun rva => rfl⟩

end Judges

end X64dbgMcp.Plugin
