import X64dbgMcp.Collection.Paging
import X64dbgMcp.Plugin.Debuggee
import X64dbgMcp.Plugin.DiscoveryCursor

/-!
# The search in memory

`memory.search` reads a window of its scope page by page, marks what could not be
read, and tries the candidates of the window one after the other.  An index outside a
vector has no value here, so that a search without a value is one that reads out of
bounds.
-/

namespace X64dbgMcp.Plugin

open Collection Text

/-- The matches in a window, and where the search goes on. -/
structure MemorySearchMatches where
  offsets : List Nat := []
  nextCandidate : Nat := 0

section FindMemoryPattern

variable (bytes readable : List UInt8) (pattern : MemoryPattern)

/-- The loop over the pattern at one candidate. -/
def matchesFrom (candidate : Nat) : Nat → Nat → Option Bool
  | 0, _ => some true
  | remaining + 1, index => do
      let flag ← readable[candidate + index]?
      if flag = 0 then pure false
      else do
        let exact ← pattern.exact[index]?
        if exact = 0 then matchesFrom candidate remaining (index + 1)
        else do
          let byte ← bytes[candidate + index]?
          let expected ← pattern.bytes[index]?
          if byte = expected then matchesFrom candidate remaining (index + 1) else pure false

/-- The loop over the candidates, which ends early at the limit. -/
def findFrom (limit : Nat) : Nat → Nat → MemorySearchMatches → Option MemorySearchMatches
  | 0, _, result => some result
  | remaining + 1, candidate, result => do
      let matched ← matchesFrom bytes readable pattern candidate pattern.bytes.length 0
      if matched then
        let found : MemorySearchMatches :=
          { offsets := result.offsets ++ [candidate], nextCandidate := candidate + 1 }
        if found.offsets.length = limit then pure found
        else findFrom limit remaining (candidate + 1) found
      else findFrom limit remaining (candidate + 1) { result with nextCandidate := candidate + 1 }

/-- The matches of a pattern among the candidates of a window. -/
def findMemoryPattern (candidateCount limit : Nat) : Option MemorySearchMatches :=
  if pattern.bytes.isEmpty ∨ pattern.bytes.length ≠ pattern.exact.length ∨
      readable.length ≠ bytes.length ∨ limit = 0 ∨ bytes.length < candidateCount ∨
      (candidateCount ≠ 0 ∧ bytes.length < pattern.bytes.length) ∨
      (candidateCount ≠ 0 ∧ bytes.length - pattern.bytes.length < candidateCount - 1) then some {}
  else findFrom bytes readable pattern limit candidateCount 0 {}

/-- Every byte of the pattern is readable at a candidate and agrees where the mask says so. -/
def matchesAt (candidate : Nat) : Bool :=
  (List.range pattern.bytes.length).all fun index =>
    readable.getD (candidate + index) 0 != 0 &&
      (pattern.exact.getD index 0 == 0 ||
        bytes.getD (candidate + index) 0 == pattern.bytes.getD index 0)

end FindMemoryPattern

/-- How many candidates are tried at a time. -/
def kCandidateWindow : Nat :=
  1024 * 1024

/-- The size of a page of memory. -/
def kPageBytes : Nat :=
  4096

section Handler

variable (build : Build) (debuggee : Debuggee) (request : Request)

/-- Where a search starts, and how many bytes it goes through. -/
def searchScope (modules : List ModuleRecord) : Except ErrorResponse (Nat × Nat) :=
  if request.memorySearchModuleScope then
    match uniqueModule debuggee modules (utf8 request.module) with
    | none => .error (failure "INVALID_ARGUMENT" "module is missing or ambiguous" false)
    | some module =>
        if module.size = 0 ∨ 128 * 1024 * 1024 < module.size ∨ build.limit ≤ module.size then
          .error (failure "OUTPUT_LIMIT_EXCEEDED" "module exceeds the 128 MiB search scope" false)
        else .ok (module.base, module.size)
  else
    match resolveAddress build debuggee request.address with
    | .error reason => .error reason
    | .ok location => .ok (location.address, request.length)

/-- What one read leaves in the two vectors; what cannot be read stays zero in both. -/
def readPiece (address chunk : Nat) : List UInt8 × List UInt8 :=
  match debuggee.memRead address chunk with
  | some data => (data.toList, List.replicate chunk 1)
  | none => (List.replicate chunk 0, List.replicate chunk 0)

/-- The loop that reads a window, no read across the end of a page. -/
def readWindow (readStart readLength : Nat) (offset tests : Nat) (bytes readable : List UInt8) :
    Except ErrorResponse (List UInt8 × List UInt8 × Nat) :=
  if offset < readLength then
    if debuggee.expired tests then
      .error (failure "TIMEOUT" "memory search exceeded its deadline" true)
    else
      let address := (readStart + offset) % build.limit
      let pageRemaining := kPageBytes - address % kPageBytes
      let chunk := min pageRemaining (readLength - offset)
      let piece := readPiece debuggee address chunk
      if !debuggee.current (tests + 1) then
        .error (failure "BUSY" "debugger changed during memory search" true)
      else
        readWindow readStart readLength (offset + chunk) (tests + 1) (bytes ++ piece.1)
          (readable ++ piece.2)
  else .ok (bytes, readable, tests)
  termination_by readLength - offset
  decreasing_by
    have page : 0 < kPageBytes - (readStart + offset) % build.limit % kPageBytes :=
      Nat.sub_pos_of_lt (Nat.mod_lt _ (by decide))
    omega

/-- A page of matches. -/
structure SearchPage where
  scopeStart : ResolvedLocation
  scopeLength : Nat
  patternHex : List UInt8
  mask : String
  items : List ResolvedLocation
  nextCursor : Option String
  scanComplete : Bool
  readComplete : Bool
  bytesScanned : Nat
  unreadableBytes : Nat
  stateGeneration : Nat

/-- How many places the pattern could lie at. -/
def totalCandidates (patternLength scopeLength : Nat) : Nat :=
  if patternLength ≤ scopeLength then scopeLength - patternLength + 1 else 0

/-- A page of a search whose scope and position have been checked. -/
def searchPage (snapshot scopeStart scopeLength : Nat) (modules : List ModuleRecord) :
    Option (Except ErrorResponse SearchPage) :=
  let patternLength := request.memoryPattern.bytes.length
  let total := totalCandidates patternLength scopeLength
  let candidateCount := min (total - request.cursorIndex) kCandidateWindow
  let readLength := if candidateCount = 0 then 0 else candidateCount + patternLength - 1
  let readStart := (scopeStart + request.cursorIndex) % build.limit
  match readWindow build debuggee readStart readLength 0 0 [] [] with
  | .error reason => some (.error reason)
  | .ok (bytes, readable, tests) =>
      if debuggee.expired tests then
        some (.error (failure "TIMEOUT" "memory search exceeded its deadline" true))
      else do
        let found ← findMemoryPattern bytes readable request.memoryPattern candidateCount
          request.pageLimit
        let nextOffset := request.cursorIndex + found.nextCandidate
        let scanComplete := decide (total ≤ nextOffset)
        let considered := if found.nextCandidate = 0 then 0
          else min readLength (found.nextCandidate + patternLength - 1)
        let unreadableBytes := (readable.take considered).count 0
        if !debuggee.current (tests + 1) then
          some (.error (failure "BUSY" "debugger changed during memory search" true))
        else
          some (.ok {
            scopeStart := locationFromModules scopeStart modules
            scopeLength := scopeLength
            patternHex := request.memoryPattern.bytes
            mask := String.ofList
              (request.memoryPattern.exact.map fun exact => if exact ≠ 0 then 'x' else '?')
            items := found.offsets.map fun offset =>
              locationFromModules ((readStart + offset) % build.limit) modules
            nextCursor :=
              if scanComplete then none else some (discoveryCursor request snapshot nextOffset)
            scanComplete := scanComplete
            readComplete := decide (unreadableBytes = 0)
            bytesScanned := found.nextCandidate
            unreadableBytes := unreadableBytes
            stateGeneration := snapshot })

/-- One page of a search. -/
def memorySearch : Option (Except ErrorResponse SearchPage) :=
  if request.discoveryCursorInvalid then
    some (.error (failure "INVALID_ARGUMENT" "cursor does not match the discovery filters" false))
  else
    match debuggee.snapshot, debuggee.debugging with
    | some snapshot, true =>
        if request.cursorGeneration.any fun generation => generation != snapshot then
          some (.error (failure "STALE_CURSOR" "cursor generation is stale" false))
        else
          match captureModuleRecords debuggee with
          | none => some (.error (failure "INTERNAL" "module snapshot is invalid" true))
          | some modules =>
              match searchScope build debuggee request modules with
              | .error reason => some (.error reason)
              | .ok (scopeStart, scopeLength) =>
                  if scopeLength = 0 ∨ build.limit - 1 - (scopeLength - 1) < scopeStart then
                    some (.error (failure "INVALID_ARGUMENT"
                      "memory search scope overflows pointer width" false))
                  else if !debuggee.current 0 then
                    some (.error (failure "BUSY"
                      "debugger changed during search scope resolution" true))
                  else if totalCandidates request.memoryPattern.bytes.length scopeLength <
                      request.cursorIndex then
                    some (.error (failure "INVALID_ARGUMENT" "cursor is invalid" false))
                  else
                    searchPage build debuggee request snapshot scopeStart scopeLength modules
    | _, _ =>
        some (.error (failure "INVALID_DEBUGGER_STATE" "operation requires a paused debuggee"
          false))

end Handler

end X64dbgMcp.Plugin
