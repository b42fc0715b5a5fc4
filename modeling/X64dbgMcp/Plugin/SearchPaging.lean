import X64dbgMcp.Plugin.MemorySearch

/-!
# Following a memory search

The pages of a search cover its candidates: a page tries the candidates from its
cursor on and ends behind the last one that it tried.  What a page reads is decided by
the memory alone, so the windows and the limit leave no trace in the matches.
-/

namespace X64dbgMcp.Plugin

open Collection Text

/-! ## FindMemoryPattern -/

section FindMemoryPattern

variable {bytes readable : List UInt8} {pattern : MemoryPattern}

/-- What the loop over the pattern tests from an index on. -/
def agreesFrom (bytes readable : List UInt8) (pattern : MemoryPattern)
    (candidate remaining index : Nat) : Bool :=
  (List.range' index remaining).all fun index =>
    readable.getD (candidate + index) 0 != 0 &&
      (pattern.exact.getD index 0 == 0 ||
        bytes.getD (candidate + index) 0 == pattern.bytes.getD index 0)

theorem matchesFrom_spec (sizes : pattern.bytes.length = pattern.exact.length)
    (flags : readable.length = bytes.length) {candidate : Nat} (remaining index : Nat)
    (pattern_end : index + remaining = pattern.bytes.length)
    (inside : candidate + pattern.bytes.length ≤ bytes.length) :
    matchesFrom bytes readable pattern candidate remaining index =
      some (agreesFrom bytes readable pattern candidate remaining index) := by
  induction remaining generalizing index with
  | zero => rfl
  | succ remaining ih =>
      have rest := ih (index + 1) (by omega)
      have flag : readable[candidate + index]? = some (readable.getD (candidate + index) 0) := by
        rw [List.getD_eq_getElem?_getD, List.getElem?_eq_getElem (by omega), Option.getD_some]
      have exact_ : pattern.exact[index]? = some (pattern.exact.getD index 0) := by
        rw [List.getD_eq_getElem?_getD, List.getElem?_eq_getElem (by omega), Option.getD_some]
      have byte : bytes[candidate + index]? = some (bytes.getD (candidate + index) 0) := by
        rw [List.getD_eq_getElem?_getD, List.getElem?_eq_getElem (by omega), Option.getD_some]
      have expected : pattern.bytes[index]? = some (pattern.bytes.getD index 0) := by
        rw [List.getD_eq_getElem?_getD, List.getElem?_eq_getElem (by omega), Option.getD_some]
      rw [matchesFrom, flag, exact_, byte, expected, rest]
      simp only [agreesFrom, List.range'_succ, List.all_cons, Option.bind_eq_bind, Option.bind_some,
        Option.pure_def]
      generalize readable.getD (candidate + index) 0 = isReadable
      generalize pattern.exact.getD index 0 = isExact
      by_cases unreadable : isReadable = 0
      · simp [unreadable]
      · by_cases wildcard : isExact = 0
        · simp [unreadable, wildcard]
        · generalize bytes.getD (candidate + index) 0 = found
          generalize pattern.bytes.getD index 0 = wanted
          by_cases same : found = wanted <;> simp [unreadable, wildcard, same]

theorem matchesFrom_zero (sizes : pattern.bytes.length = pattern.exact.length)
    (flags : readable.length = bytes.length) {candidate : Nat}
    (inside : candidate + pattern.bytes.length ≤ bytes.length) :
    matchesFrom bytes readable pattern candidate pattern.bytes.length 0 =
      some (matchesAt bytes readable pattern candidate) := by
  rw [matchesFrom_spec sizes flags _ _ (Nat.zero_add _) inside, matchesAt, List.range_eq_range']
  rfl

/-- The loop over the candidates stays in bounds, makes progress and finds what it passes. -/
theorem findFrom_spec (sizes : pattern.bytes.length = pattern.exact.length)
    (flags : readable.length = bytes.length) {limit : Nat} (remaining candidate : Nat)
    (offsets : List Nat) (room : offsets.length < limit)
    (inside : 0 < remaining → candidate + remaining - 1 + pattern.bytes.length ≤ bytes.length) :
    ∃ stop, candidate ≤ stop ∧ stop ≤ candidate + remaining ∧ (0 < remaining → candidate < stop) ∧
      findFrom bytes readable pattern limit remaining candidate
          { offsets := offsets, nextCandidate := candidate } =
        some
          { offsets := offsets ++ stretch (fun candidate =>
              if matchesAt bytes readable pattern candidate then [candidate] else []) candidate stop
            nextCandidate := stop } := by
  induction remaining generalizing candidate offsets with
  | zero => exact ⟨candidate, le_rfl, le_rfl, by omega, by simp [findFrom]⟩
  | succ remaining ih =>
      have here := inside (Nat.succ_pos remaining)
      have tried := @matchesFrom_zero bytes readable pattern sizes flags candidate (by omega)
      have first : ∀ stop, candidate + 1 ≤ stop →
          stretch (fun candidate =>
              if matchesAt bytes readable pattern candidate then [candidate] else []) candidate stop =
            (if matchesAt bytes readable pattern candidate then [candidate] else []) ++
              stretch (fun candidate =>
                if matchesAt bytes readable pattern candidate then [candidate] else [])
                (candidate + 1) stop := by
        intro stop after
        rw [← stretch_append _ (Nat.le_succ candidate) after, stretch_succ _ le_rfl, stretch_self,
          List.nil_append]
      rw [findFrom, tried]
      by_cases matched : matchesAt bytes readable pattern candidate = true
      · by_cases full : offsets.length + 1 = limit
        · refine ⟨candidate + 1, by omega, by omega, fun _ => by omega, ?_⟩
          rw [first _ le_rfl, stretch_self]
          simp [matched, full]
        · rcases ih (candidate + 1) (offsets ++ [candidate])
            (by rw [List.length_append, List.length_singleton]; omega)
            (fun more => by omega) with ⟨stop, low, high, -, found⟩
          refine ⟨stop, by omega, by omega, fun _ => by omega, ?_⟩
          rw [first _ low]
          simp [matched, full, found]
      · rcases ih (candidate + 1) offsets room (fun more => by omega) with
          ⟨stop, low, high, -, found⟩
        refine ⟨stop, by omega, by omega, fun _ => by omega, ?_⟩
        rw [first _ low]
        simp [matched, found]

/-- A call that its guard lets through passes some candidates and finds what matches there. -/
theorem findMemoryPattern_spec (sizes : pattern.bytes.length = pattern.exact.length)
    (positive : 0 < pattern.bytes.length) (flags : readable.length = bytes.length)
    {candidateCount limit : Nat} (room : 0 < limit)
    (inside : 0 < candidateCount → candidateCount - 1 + pattern.bytes.length ≤ bytes.length) :
    ∃ stop, stop ≤ candidateCount ∧ (0 < candidateCount → 0 < stop) ∧
      findMemoryPattern bytes readable pattern candidateCount limit =
        some
          { offsets := stretch (fun candidate =>
              if matchesAt bytes readable pattern candidate then [candidate] else []) 0 stop
            nextCandidate := stop } := by
  rcases findFrom_spec sizes flags candidateCount 0 [] room
    (fun some => by rw [Nat.zero_add]; exact inside some) with ⟨stop, -, high, progress, found⟩
  refine ⟨stop, by omega, progress, ?_⟩
  have allowed : ¬(pattern.bytes.isEmpty ∨ pattern.bytes.length ≠ pattern.exact.length ∨
      readable.length ≠ bytes.length ∨ limit = 0 ∨ bytes.length < candidateCount ∨
      (candidateCount ≠ 0 ∧ bytes.length < pattern.bytes.length) ∨
      (candidateCount ≠ 0 ∧ bytes.length - pattern.bytes.length < candidateCount - 1)) := by
    rw [List.isEmpty_iff, ← List.length_eq_zero_iff]
    by_cases none : candidateCount = 0
    · omega
    · have fits := inside (Nat.pos_of_ne_zero none)
      omega
  rw [findMemoryPattern, if_neg allowed]
  exact found

/-- No call reads out of bounds, whatever it is given. -/
theorem findMemoryPattern_inBounds (bytes readable : List UInt8) (pattern : MemoryPattern)
    (candidateCount limit : Nat) :
    (findMemoryPattern bytes readable pattern candidateCount limit).isSome = true := by
  by_cases refused : pattern.bytes.isEmpty ∨ pattern.bytes.length ≠ pattern.exact.length ∨
      readable.length ≠ bytes.length ∨ limit = 0 ∨ bytes.length < candidateCount ∨
      (candidateCount ≠ 0 ∧ bytes.length < pattern.bytes.length) ∨
      (candidateCount ≠ 0 ∧ bytes.length - pattern.bytes.length < candidateCount - 1)
  · rw [findMemoryPattern, if_pos refused]
    rfl
  · simp only [not_or, not_and, Nat.not_lt, ne_eq, not_not, Bool.not_eq_true,
      List.isEmpty_eq_false_iff] at refused
    rcases refused with ⟨some, sizes, flags, room, -, longer, last⟩
    rcases findMemoryPattern_spec sizes (List.length_pos_of_ne_nil some) flags
      (Nat.pos_of_ne_zero room) (fun some => by
        have fits := longer (Nat.pos_iff_ne_zero.mp some)
        have ends := last (Nat.pos_iff_ne_zero.mp some)
        omega) with ⟨stop, -, -, found⟩
    rw [found]
    rfl

end FindMemoryPattern

/-! ## Reading a window -/

/-- Memory that is readable page by page. -/
structure PagedMemory (debuggee : Debuggee) (content : Nat → UInt8) (readable : Nat → Bool) :
    Prop where
  read : ∀ address length, 0 < length →
    address / kPageBytes = (address + length - 1) / kPageBytes →
      (debuggee.memRead address length).map Vector.toList =
        if readable (address / kPageBytes) then some ((List.range' address length).map content)
        else none

/-- Nothing interferes with a request: it has time, and the debuggee stays paused. -/
structure Debuggee.Steady (debuggee : Debuggee) : Prop where
  inTime : ∀ test, debuggee.expired test = false
  unchanged : ∀ test, debuggee.current test = true

/-- What a window holds for an address. -/
def windowByte (content : Nat → UInt8) (readable : Nat → Bool) (address : Nat) : UInt8 :=
  if readable (address / kPageBytes) then content address else 0

/-- Whether an address in a window is readable. -/
def windowFlag (readable : Nat → Bool) (address : Nat) : UInt8 :=
  if readable (address / kPageBytes) then 1 else 0

section Window

variable {build : Build} {debuggee : Debuggee} {content : Nat → UInt8} {readable : Nat → Bool}

theorem map_windowFlag_of_page {address length page : Nat}
    (onPage : ∀ other ∈ List.range' address length, other / kPageBytes = page) :
    (List.range' address length).map (windowFlag readable) =
      List.replicate length (if readable page then 1 else 0) := by
  have same : ∀ other ∈ List.range' address length,
      windowFlag readable other = if readable page then 1 else 0 := by
    intro other member
    rw [windowFlag, onPage other member]
  rw [List.map_congr_left same, List.map_const', List.length_range']

theorem map_windowByte_of_page {address length page : Nat}
    (onPage : ∀ other ∈ List.range' address length, other / kPageBytes = page) :
    (List.range' address length).map (windowByte content readable) =
      if readable page then (List.range' address length).map content
      else List.replicate length 0 := by
  have same : ∀ other ∈ List.range' address length,
      windowByte content readable other = if readable page then content other else 0 := by
    intro other member
    rw [windowByte, onPage other member]
  rw [List.map_congr_left same]
  split_ifs
  · rfl
  · rw [List.map_const', List.length_range']

theorem readWindow_spec (paged : PagedMemory debuggee content readable)
    (steady : debuggee.Steady) {readStart readLength : Nat}
    (fits : readStart + readLength ≤ build.limit) (offset tests : Nat)
    (inside : offset ≤ readLength) :
    ∃ last, readWindow build debuggee readStart readLength offset tests
        ((List.range' readStart offset).map (windowByte content readable))
        ((List.range' readStart offset).map (windowFlag readable)) =
      .ok ((List.range' readStart readLength).map (windowByte content readable),
        (List.range' readStart readLength).map (windowFlag readable), last) := by
  induction left : readLength - offset using Nat.strong_induction_on generalizing offset tests with
  | _ left ih =>
      rw [readWindow]
      by_cases more : offset < readLength
      · have address : (readStart + offset) % build.limit = readStart + offset :=
          Nat.mod_eq_of_lt (by omega)
        rw [if_pos more, if_neg (by simp [steady.inTime])]
        simp only [address, steady.unchanged, Bool.not_true, Bool.false_eq_true, if_false]
        generalize chunkIs : min (kPageBytes - (readStart + offset) % kPageBytes)
          (readLength - offset) = chunk
        have onPage : 0 < chunk ∧ (readStart + offset) % kPageBytes + chunk ≤ kPageBytes ∧
            offset + chunk ≤ readLength := by
          have page := Nat.mod_lt (readStart + offset) (by decide : kPageBytes > 0)
          omega
        have pages : ∀ other ∈ List.range' (readStart + offset) chunk,
            other / kPageBytes = (readStart + offset) / kPageBytes := by
          intro other member
          rw [List.mem_range'_1] at member
          simp only [kPageBytes] at onPage ⊢
          omega
        have piece : readPiece debuggee (readStart + offset) chunk =
            ((List.range' (readStart + offset) chunk).map (windowByte content readable),
              (List.range' (readStart + offset) chunk).map (windowFlag readable)) := by
          have reads := paged.read (readStart + offset) chunk onPage.1
            (pages (readStart + offset + chunk - 1) (by rw [List.mem_range'_1]; omega)).symm
          rw [map_windowByte_of_page pages, map_windowFlag_of_page pages, readPiece]
          cases answer : debuggee.memRead (readStart + offset) chunk with
          | none =>
              rw [answer, Option.map_none] at reads
              split_ifs at reads with isReadable
              simp [isReadable]
          | some data =>
              rw [answer, Option.map_some] at reads
              split_ifs at reads with isReadable
              rw [Option.some.injEq] at reads
              simp [isReadable, reads]
        have joined : List.range' readStart offset ++ List.range' (readStart + offset) chunk =
            List.range' readStart (offset + chunk) := List.range'_append_1
        rcases ih (readLength - (offset + chunk)) (by omega) (offset + chunk) (tests + 1) onPage.2.2
          rfl with ⟨last, rest⟩
        refine ⟨last, ?_⟩
        rw [piece, ← List.map_append, ← List.map_append, joined]
        exact rest
      · have ends : offset = readLength := by omega
        rw [if_neg more, ends]
        exact ⟨tests, rfl⟩

end Window

/-! ## Pages of a search -/

/-- A page of a search and the request that follows it. -/
def askSearch (build : Build) (debuggee : Debuggee) (request : Request) :
    Option (Page ResolvedLocation Request) :=
  match memorySearch build debuggee request with
  | some (.ok page) =>
      match page.nextCursor with
      | none => some { items := page.items, next := none }
      | some cursor =>
          (followUp build request cursor).map fun following =>
            { items := page.items, next := some following }
  | _ => none

/-- A search that nothing stands against: the debuggee is paused, the scope is found and
does not overflow, and the parser has read the pattern and the limit. -/
structure Searchable (build : Build) (debuggee : Debuggee) (snapshot scopeStart scopeLength : Nat)
    (modules : List ModuleRecord) (request : Request) : Prop where
  narrow : build.limit ≤ 2 ^ 64
  paused : debuggee.snapshot = some snapshot ∧ snapshot < 2 ^ 64 ∧ debuggee.debugging = true
  captured : captureModuleRecords debuggee = some modules
  scope : searchScope build debuggee request modules = .ok (scopeStart, scopeLength)
  nonempty : 0 < scopeLength
  fits : scopeStart + scopeLength ≤ build.limit
  pattern : ∃ patternText maskText,
    parseMemoryPattern patternText maskText = some request.memoryPattern
  limit : 0 < request.pageLimit
  fingerprint : ∃ fingerprint < 2 ^ 64, request.cursorFingerprint = some fingerprint

/-- All bytes of the pattern are readable at an address and agree where the mask says so. -/
def matchesMemory (content : Nat → UInt8) (readable : Nat → Bool) (pattern : MemoryPattern)
    (address : Nat) : Bool :=
  (List.range pattern.bytes.length).all fun index =>
    readable ((address + index) / kPageBytes) &&
      (pattern.exact.getD index 0 == 0 ||
        content (address + index) == pattern.bytes.getD index 0)

theorem parseHexPairs_length {strict : Bool} {digits bytes : List UInt8}
    (reads : parseHexPairs strict digits = some bytes) : digits.length = 2 * bytes.length := by
  induction digits using parseHexPairs.induct generalizing bytes with
  | case1 =>
      cases reads
      rfl
  | case2 => cases reads
  | case3 high low rest ih =>
      simp only [parseHexPairs, Option.bind_eq_bind, Option.bind_eq_some_iff, Option.pure_def,
        Option.some.injEq] at reads
      rcases reads with ⟨-, -, byte, -, -, -, others, readsOthers, rfl⟩
      simp only [List.length_cons, ih readsOthers]
      omega

/-- A pattern that was read has as many marks as bytes, and at least one. -/
theorem parseMemoryPattern_sizes {patternText maskText : String} {pattern : MemoryPattern}
    (reads : parseMemoryPattern patternText maskText = some pattern) :
    pattern.bytes.length = pattern.exact.length ∧ 0 < pattern.bytes.length := by
  simp only [parseMemoryPattern, Option.bind_eq_bind, Option.bind_eq_some_iff, require_eq_some,
    Option.pure_def, Option.some.injEq] at reads
  rcases reads with ⟨-, ⟨nonempty, -, even, masks, -⟩, bytes, pairs, rfl⟩
  have size := parseHexPairs_length pairs
  simp only [List.length_map]
  omega

theorem getD_map_range' {α : Type} (item : Nat → α) (default : α) {start length index : Nat}
    (inside : index < length) :
    ((List.range' start length).map item).getD index default = item (start + index) := by
  simp [List.getD_eq_getElem?_getD, inside]

/-- In a window a candidate matches as it does in the memory. -/
theorem matchesAt_window (content : Nat → UInt8) (readable : Nat → Bool) (pattern : MemoryPattern)
    {readStart readLength candidate : Nat}
    (inside : candidate + pattern.bytes.length ≤ readLength) :
    matchesAt ((List.range' readStart readLength).map (windowByte content readable))
        ((List.range' readStart readLength).map (windowFlag readable)) pattern candidate =
      matchesMemory content readable pattern (readStart + candidate) := by
  rw [matchesAt, matchesMemory, Bool.eq_iff_iff, List.all_eq_true, List.all_eq_true]
  refine forall₂_congr fun index member => ?_
  rw [List.mem_range] at member
  have here : candidate + index < readLength := by omega
  rw [getD_map_range' _ _ here, getD_map_range' _ _ here, windowFlag, windowByte,
    Nat.add_assoc readStart]
  by_cases isReadable : readable ((readStart + (candidate + index)) / kPageBytes) = true <;>
    simp [isReadable]

section Chain

variable {build : Build} {debuggee : Debuggee} {content : Nat → UInt8} {readable : Nat → Bool}
  {snapshot scopeStart scopeLength : Nat} {modules : List ModuleRecord} {pattern : MemoryPattern}

/-- The match at an offset of the scope. -/
def searchItems (content : Nat → UInt8) (readable : Nat → Bool) (pattern : MemoryPattern)
    (scopeStart : Nat) (modules : List ModuleRecord) (offset : Nat) : List ResolvedLocation :=
  if matchesMemory content readable pattern (scopeStart + offset) then
    [locationFromModules (scopeStart + offset) modules]
  else []

/-- A request for the same search, at its start or behind one of its pages. -/
structure Continues (build : Build) (debuggee : Debuggee) (snapshot scopeStart scopeLength : Nat)
    (modules : List ModuleRecord) (sought : MemoryPattern) (request : Request) : Prop
    extends Searchable build debuggee snapshot scopeStart scopeLength modules request where
  looksFor : request.memoryPattern = sought
  accepted : request.discoveryCursorInvalid = false
  generation : ∀ generation ∈ request.cursorGeneration, generation = snapshot

theorem totalCandidates_le {patternLength scopeLength : Nat} (positive : 0 < patternLength) :
    totalCandidates patternLength scopeLength ≤ scopeLength := by
  rw [totalCandidates]
  split_ifs <;> omega

theorem searchPage_spec {request : Request}
    (continues : Continues build debuggee snapshot scopeStart scopeLength modules pattern request)
    (paged : PagedMemory debuggee content readable) (steady : debuggee.Steady)
    (within : request.cursorIndex ≤ totalCandidates pattern.bytes.length scopeLength) :
    ∃ page stop, searchPage build debuggee request snapshot scopeStart scopeLength modules =
        some (.ok page) ∧
      request.cursorIndex ≤ stop ∧ stop ≤ totalCandidates pattern.bytes.length scopeLength ∧
      (request.cursorIndex < totalCandidates pattern.bytes.length scopeLength →
        request.cursorIndex < stop) ∧
      page.items = stretch (searchItems content readable pattern scopeStart modules)
        request.cursorIndex stop ∧
      page.nextCursor = if totalCandidates pattern.bytes.length scopeLength ≤ stop then none
        else some (discoveryCursor request snapshot stop) := by
  rcases continues.pattern with ⟨patternText, maskText, reads⟩
  rcases parseMemoryPattern_sizes reads with ⟨sizes, positive⟩
  have fits := continues.fits
  have nonempty := continues.nonempty
  have totalIs : totalCandidates pattern.bytes.length scopeLength =
      if pattern.bytes.length ≤ scopeLength then scopeLength - pattern.bytes.length + 1 else 0 := rfl
  simp only [searchPage]
  rw [continues.looksFor] at sizes positive ⊢
  generalize totalCandidates pattern.bytes.length scopeLength = total at within totalIs ⊢
  generalize countIs : min (total - request.cursorIndex) kCandidateWindow = count
  generalize lengthIs : (if count = 0 then 0 else count + pattern.bytes.length - 1) = readLength
  generalize startIs : (scopeStart + request.cursorIndex) % build.limit = readStart
  have window : 0 < kCandidateWindow := by decide
  have counted : count ≤ total - request.cursorIndex ∧
      (request.cursorIndex < total → 0 < count) := by omega
  -- behind the last candidate nothing is read, and the start may lie behind the last address
  have started : 0 < count → readStart = scopeStart + request.cursorIndex ∧
      readLength = count + pattern.bytes.length - 1 ∧ readStart + readLength ≤ build.limit := by
    intro some
    rw [if_neg (by omega)] at lengthIs
    have start : (scopeStart + request.cursorIndex) % build.limit =
        scopeStart + request.cursorIndex := by
      apply Nat.mod_eq_of_lt
      split_ifs at totalIs <;> omega
    split_ifs at totalIs <;> omega
  have bounded : readStart + readLength ≤ build.limit := by
    by_cases none : count = 0
    · rw [if_pos none] at lengthIs
      have below := Nat.mod_lt (scopeStart + request.cursorIndex) (by omega : build.limit > 0)
      omega
    · exact (started (by omega)).2.2
  rcases readWindow_spec paged steady bounded 0 0 (Nat.zero_le _) with ⟨tests, read⟩
  rw [List.range'_zero, List.map_nil, List.map_nil] at read
  rw [read]
  rcases @findMemoryPattern_spec
      ((List.range' readStart readLength).map (windowByte content readable))
      ((List.range' readStart readLength).map (windowFlag readable)) pattern sizes positive (by simp)
      count request.pageLimit continues.limit (fun some => by
        rw [List.length_map, List.length_range', (started some).2.1]
        omega) with ⟨passed, passedLe, progress, found⟩
  simp only [steady.inTime, steady.unchanged, Bool.false_eq_true, if_false, Bool.not_true, found,
    Option.bind_eq_bind, Option.bind_some]
  refine ⟨_, request.cursorIndex + passed, rfl, Nat.le_add_right _ _, by omega, by omega, ?_, ?_⟩
  · rw [map_stretch, ← Nat.add_zero request.cursorIndex, Nat.add_assoc, Nat.zero_add,
      ← stretch_add]
    apply stretch_congr
    intro candidate _ below
    rcases started (by omega) with ⟨start, length, last⟩
    have inRange : scopeStart + request.cursorIndex + candidate < build.limit := by omega
    rw [matchesAt_window content readable pattern (by omega), searchItems, start, ← Nat.add_assoc]
    split_ifs
    · rw [List.map_singleton, Nat.mod_eq_of_lt inRange]
    · rfl
  · simp only [decide_eq_true_eq]

/-- A search answers a request of its chain with a page that covers a stretch of candidates. -/
theorem askSearch_covers {request : Request}
    (continues : Continues build debuggee snapshot scopeStart scopeLength modules pattern request)
    (paged : PagedMemory debuggee content readable) (steady : debuggee.Steady)
    (within : request.cursorIndex ≤ totalCandidates pattern.bytes.length scopeLength) :
    ∃ page, askSearch build debuggee request = some page ∧
      Collection.Covers (searchItems content readable pattern scopeStart modules)
        (totalCandidates pattern.bytes.length scopeLength) Request.cursorIndex
        (Continues build debuggee snapshot scopeStart scopeLength modules pattern)
        request.cursorIndex page := by
  rcases searchPage_spec continues paged steady within with
    ⟨page, stop, answered, low, high, progress, items, next⟩
  have fits := continues.fits
  have nonempty := continues.nonempty
  have handled : memorySearch build debuggee request = some (.ok page) := by
    rw [memorySearch, continues.accepted, continues.paused.1, continues.paused.2.2]
    simp only [Bool.false_eq_true, if_false]
    rw [if_neg, continues.captured]
    · simp only [continues.scope]
      rw [if_neg (by omega), steady.unchanged, continues.looksFor, if_neg (by simp), if_neg (by omega)]
      exact answered
    · simp only [Option.any_eq_true, bne_iff_ne, ne_eq, not_exists, not_and, not_not]
      intro generation isGeneration
      exact continues.generation generation isGeneration
  rcases continues.fingerprint with ⟨fingerprint, fingerprintFits, isFingerprint⟩
  rcases continues.pattern with ⟨patternText, maskText, reads⟩
  have positive := (parseMemoryPattern_sizes reads).2
  rw [continues.looksFor] at positive
  have total := @totalCandidates_le _ scopeLength positive
  by_cases complete : totalCandidates pattern.bytes.length scopeLength ≤ stop
  · rw [if_pos complete] at next
    have ends : stop = totalCandidates pattern.bytes.length scopeLength := by omega
    refine ⟨{ items := page.items, next := none }, by simp only [askSearch, handled, next], ?_⟩
    rw [items, ends]
    exact .last
  · rw [if_neg complete] at next
    have follows := @followUp_discoveryCursor build request snapshot stop continues.narrow
      continues.paused.2.1 (by rw [isFingerprint]; exact fingerprintFits) (by omega)
    refine ⟨⟨page.items, some { request with
        cursorFingerprint := some (request.cursorFingerprint.getD 0)
        cursorGeneration := some snapshot
        discoveryCursorInvalid := false
        cursorIndex := stop }⟩, by simp only [askSearch, handled, next, follows, Option.map_some], ?_⟩
    refine .of_next ?_ (progress (by omega)) high items
    exact
      { continues with
        fingerprint := ⟨fingerprint, fingerprintFits, by rw [isFingerprint, Option.getD_some]⟩
        accepted := rfl
        generation := fun generation isGeneration => (Option.some.inj isGeneration).symm }

/-- The matches of a pattern in a scope, in increasing order. -/
def searchMatches (content : Nat → UInt8) (readable : Nat → Bool) (pattern : MemoryPattern)
    (scopeStart scopeLength : Nat) : List Nat :=
  ((List.range scopeLength).filter fun offset =>
    decide (offset + pattern.bytes.length ≤ scopeLength) &&
      matchesMemory content readable pattern (scopeStart + offset)).map (scopeStart + ·)

theorem stretch_searchItems (positive : 0 < pattern.bytes.length) :
    (stretch (searchItems content readable pattern scopeStart modules) 0
        (totalCandidates pattern.bytes.length scopeLength)).map ResolvedLocation.address =
      searchMatches content readable pattern scopeStart scopeLength := by
  have total := @totalCandidates_le _ scopeLength positive
  rw [searchMatches, ← stretch_zero_eq_filter, map_stretch,
    ← stretch_append _ (Nat.zero_le _) total]
  have rest : stretch (fun offset =>
      if (decide (offset + pattern.bytes.length ≤ scopeLength) &&
        matchesMemory content readable pattern (scopeStart + offset)) = true
      then [scopeStart + offset] else [])
      (totalCandidates pattern.bytes.length scopeLength) scopeLength = [] := by
    apply List.flatMap_eq_nil_iff.mpr
    intro offset member
    rw [List.mem_range'_1, totalCandidates] at member
    rw [if_neg]
    simp only [Bool.and_eq_true, decide_eq_true_eq, not_and]
    split_ifs at member <;> omega
  rw [rest, List.append_nil]
  apply stretch_congr
  intro offset _ below
  have inside : offset + pattern.bytes.length ≤ scopeLength := by
    rw [totalCandidates] at below
    split_ifs at below <;> omega
  rw [searchItems, decide_eq_true inside, Bool.true_and]
  split_ifs <;> simp

/-- Following a memory search gives its matches: the addresses of the scope at which all
bytes of the pattern lie inside the scope, are readable and agree, each once and in order,
whatever the limit is.  No candidate is tried out of bounds. -/
theorem memorySearch_complete {request : Request}
    (searchable : Searchable build debuggee snapshot scopeStart scopeLength modules request)
    (fresh : request.cursorIndex = 0 ∧ request.cursorGeneration = none ∧
      request.discoveryCursorInvalid = false)
    (paged : PagedMemory debuggee content readable) (steady : debuggee.Steady) {pages : Nat}
    (enough : scopeLength < pages) :
    (collect (askSearch build debuggee) pages request).map (List.map ResolvedLocation.address) =
        some (searchMatches content readable request.memoryPattern scopeStart scopeLength) ∧
      ∀ bytes readable pattern candidateCount limit,
        (findMemoryPattern bytes readable pattern candidateCount limit).isSome = true := by
  rcases searchable.pattern with ⟨patternText, maskText, reads⟩
  have positive := (parseMemoryPattern_sizes reads).2
  have continues : Continues build debuggee snapshot scopeStart scopeLength modules
      request.memoryPattern request :=
    { searchable with
      looksFor := rfl
      accepted := fresh.2.2
      generation := by simp [fresh.2.1] }
  have total := @totalCandidates_le _ scopeLength positive
  have collected := collect_of_covers
    (fun following proper within => askSearch_covers proper paged steady within) continues
    (by rw [fresh.1]; exact Nat.zero_le _) (by omega : _ < pages)
  refine ⟨?_, findMemoryPattern_inBounds⟩
  rw [collected, fresh.1, Option.map_some, stretch_searchItems positive]

end Chain

/-! ## A search across a page that cannot be read -/

/-- A read that succeeds exactly on readable ranges. -/
def pagedRead (content : Nat → UInt8) (readable : Nat → Bool) (address length : Nat) :
    Option (Vector UInt8 length) :=
  if (List.range' address length).all fun other => readable (other / kPageBytes) then
    some (Vector.ofFn fun index => content (address + index))
  else none

/-- A memory of two bytes by turns. -/
def alternating (address : Nat) : UInt8 :=
  if address % 2 = 0 then 0x4d else 0x5a

/-- All of its pages but one. -/
def alternatingReadable (page : Nat) : Bool :=
  page != 0x401

/-- The debuggee with that memory. -/
def alternatingDebuggee : Debuggee where
  snapshot := some 7
  debugging := true
  modules := .listed []
  equalsIgnoreCase left right := left == right
  findText _ _ := none
  memRead := pagedRead alternating alternatingReadable
  expired _ := false
  current _ := true

/-- The build for 64 bits. -/
def alternatingBuild : Build where
  pointerBytes := 8
  maxConditionalExprSize := 256

/-- The search for 4d5a in eight bytes, one match a page. -/
def alternatingRequest : Request where
  requestId := "6f9619ff-8b86-4d11-b42d-00c04fc964ff"
  method := "memory.search"
  deadlineUnixMs := 1760000000000
  mutation := false
  address := { absolute := 0x400ffa }
  length := 8
  pageLimit := 1
  cursorFingerprint := some 1
  memoryPattern := { bytes := [0x4d, 0x5a], exact := [1, 1] }

theorem pagedMemory_pagedRead {debuggee : Debuggee} {content : Nat → UInt8} {readable : Nat → Bool}
    (reads : debuggee.memRead = pagedRead content readable) :
    PagedMemory debuggee content readable := by
  constructor
  intro address length some onePage
  have pages : ∀ other ∈ List.range' address length,
      other / kPageBytes = address / kPageBytes := by
    intro other member
    rw [List.mem_range'_1] at member
    simp only [kPageBytes] at onePage ⊢
    omega
  have allReadable : ((List.range' address length).all fun other => readable (other / kPageBytes)) =
      readable (address / kPageBytes) := by
    rw [Bool.eq_iff_iff, List.all_eq_true]
    constructor
    · intro every
      exact every address (by rw [List.mem_range'_1]; omega)
    · intro isReadable other member
      rw [pages other member]
      exact isReadable
  rw [reads, pagedRead, allReadable]
  split_ifs
  · rw [Option.map_some, Vector.toList_ofFn]
    congr 1
    apply List.ext_getElem <;> simp
  · rfl

theorem memorySearch_complete_alternating :
    (collect (askSearch alternatingBuild alternatingDebuggee) 9 alternatingRequest).map
        (List.map ResolvedLocation.address) = some [0x400ffa, 0x400ffc, 0x400ffe] := by
  have searchable : Searchable alternatingBuild alternatingDebuggee 7 0x400ffa 8 []
      alternatingRequest :=
    { narrow := by decide
      paused := ⟨rfl, by decide, rfl⟩
      captured := rfl
      scope := rfl
      nonempty := by decide
      fits := by decide
      pattern := ⟨"4d5a", "xx", by decide⟩
      limit := by decide
      fingerprint := ⟨1, by decide, rfl⟩ }
  have complete := memorySearch_complete searchable ⟨rfl, rfl, rfl⟩
    (pagedMemory_pagedRead rfl) ⟨fun _ => rfl, fun _ => rfl⟩ (by decide : 8 < 9)
  have found : searchMatches alternating alternatingReadable alternatingRequest.memoryPattern
      0x400ffa 8 = [0x400ffa, 0x400ffc, 0x400ffe] := by decide
  rw [found] at complete
  exact complete.1

end X64dbgMcp.Plugin
