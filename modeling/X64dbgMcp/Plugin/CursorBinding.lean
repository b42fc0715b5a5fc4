import X64dbgMcp.Plugin.DiscoveryCursor

/-!
# What a discovery cursor is bound to

A listing request hashes its method, its target and its filters; the cursor that it
prints carries the hash, and a later request flags a cursor whose hash is another one.
The cursor is bound to the parts that are hashed.  The parts tell every query from
every other, with one exception: `references.to` hashes no address.
-/

namespace X64dbgMcp.Plugin

open Text Tools

/-- The methods whose cursors carry a fingerprint of a query. -/
def listingMethods : List String :=
  ["symbols.search", "functions.list", "strings.search", "references.to", "imports.list",
    "exports.list", "sections.list", "memory.search", "patches.list"]

/-- What a listing looks for: its method, its target and its filters. -/
structure ListingQuery where
  method : String
  module : String := ""
  address : AddressReference := {}
  memorySearchModuleScope : Bool := false
  length : Nat := 0
  query : String := ""
  stringEncoding : String := "both"
  minStringLength : Nat := 4
  stringContextBytes : Nat := 64
  memoryPattern : MemoryPattern := {}
  deriving DecidableEq

/-- The part of a request that its listing depends on. -/
def Request.listingQuery (request : Request) : ListingQuery where
  method := request.method
  module := request.module
  address := request.address
  memorySearchModuleScope := request.memorySearchModuleScope
  length := request.length
  query := request.query
  stringEncoding := request.stringEncoding
  minStringLength := request.minStringLength
  stringContextBytes := request.stringContextBytes
  memoryPattern := request.memoryPattern

/-- A text of the payload. -/
def Payload.text (payload : Payload) (name : String) : List UInt8 :=
  utf8 ((textOf (payload.lookup name)).getD "")

/-- The parts that the parser hashes for a request. -/
def fingerprintParts (payload : Payload) (request : Request) : List (List UInt8) :=
  if request.method = "memory.search" then
    [utf8 request.method, scopeKey request, Payload.text payload "pattern_hex",
      Payload.text payload "mask", decimal request.pageLimit, decimal 0]
  else if request.method = "patches.list" then
    [utf8 request.method, utf8 request.module, [], [], decimal 0, decimal 0]
  else
    [utf8 request.method, utf8 request.module, utf8 request.query, utf8 request.stringEncoding,
      decimal request.minStringLength,
      decimal (if request.query = "" then 0 else request.stringContextBytes)]

/-- The byte sequence that is hashed for a request. -/
def fingerprintBytes (payload : Payload) (request : Request) : List UInt8 :=
  fingerprintInput (fingerprintParts payload request)

/-- The fingerprint of a request. -/
def fingerprintOf (payload : Payload) (request : Request) : Nat :=
  ((fingerprintBytes payload request).foldl hashByte 14695981039346656037).toNat

/-- The cursor that a page of a request ends with. -/
def printedCursor (request : Request) (generation snapshotFingerprint index : Nat) : String :=
  if request.method = "patches.list" then
    patchCursor request generation snapshotFingerprint index
  else discoveryCursor request generation index

/-! ## Hashed parts -/

/-- No byte of a text closes a part. -/
theorem marker_notMem_utf8 (text : String) : 0xff ∉ utf8 text := by
  intro member
  rcases List.mem_flatMap.mp member with ⟨character, -, member⟩
  exact absurd (toNat_lt_of_mem_utf8EncodeChar member) (by decide)

theorem fingerprintInput_injective {first second : List (List UInt8)}
    (length : first.length = second.length) (firstFree : ∀ part ∈ first, 0xff ∉ part)
    (secondFree : ∀ part ∈ second, 0xff ∉ part)
    (same : fingerprintInput first = fingerprintInput second) : first = second := by
  induction first generalizing second with
  | nil => exact (List.length_eq_zero_iff.mp length.symm).symm
  | cons part rest ih =>
      cases second with
      | nil => simp at length
      | cons other others =>
          have split : part ++ 0xff :: fingerprintInput rest =
              other ++ 0xff :: fingerprintInput others := by
            simpa [fingerprintInput] using same
          rw [List.forall_mem_cons] at firstFree secondFree
          rcases append_cons_inj_of_free firstFree.1 secondFree.1 split with ⟨rfl, tails⟩
          rw [ih (by simpa using length) firstFree.2 secondFree.2 tails]

/-! ## What the parsers read -/

section Parsers

variable {build : Build} {payload : Payload} {request parsed : Request}

/-- Only the fields of the cursor are filled in, and the query is that of before. -/
theorem withDiscoveryCursor_spec {expected : Nat} {cursor : Option Json}
    (reads : withDiscoveryCursor build request expected cursor = some parsed) :
    parsed.listingQuery = request.listingQuery ∧ parsed.pageLimit = request.pageLimit ∧
      parsed.cursorFingerprint = some expected ∧
      ∀ text, cursor = some (.string text) →
        parsed.discoveryCursorInvalid =
          !((parseDiscoveryCursor build (utf8 text)).accepted &&
            (parseDiscoveryCursor build (utf8 text)).fingerprint == expected) := by
  cases cursor with
  | none =>
      simp only [withDiscoveryCursor, unlessMissing, Option.isNone_none, if_true,
        Option.some.injEq] at reads
      subst reads
      exact ⟨rfl, rfl, rfl, by simp⟩
  | some value =>
      simp only [withDiscoveryCursor, unlessMissing, Option.isNone_some, Bool.false_eq_true,
        if_false, Option.bind_eq_bind, Option.bind_eq_some_iff] at reads
      rcases reads with ⟨text, isText, reads⟩
      split_ifs at reads with accepted <;> cases reads
      · refine ⟨rfl, rfl, rfl, ?_⟩
        rintro _ ⟨⟩
        cases isText
        simp [accepted, beq_eq_decide]
      · refine ⟨rfl, rfl, rfl, ?_⟩
        rintro _ ⟨⟩
        cases isText
        simp [accepted]

theorem withPatchCursor_spec {expected : Nat} {cursor : Option Json}
    (reads : withPatchCursor build request expected cursor = some parsed) :
    parsed.listingQuery = request.listingQuery ∧ parsed.pageLimit = request.pageLimit ∧
      parsed.cursorFingerprint = some expected ∧
      ∀ text, cursor = some (.string text) →
        parsed.discoveryCursorInvalid =
          !((parsePatchCursor build (utf8 text)).accepted &&
            (parsePatchCursor build (utf8 text)).fingerprint == expected) := by
  cases cursor with
  | none =>
      simp only [withPatchCursor, unlessMissing, Option.isNone_none, if_true,
        Option.some.injEq] at reads
      subst reads
      exact ⟨rfl, rfl, rfl, by simp⟩
  | some value =>
      simp only [withPatchCursor, unlessMissing, Option.isNone_some, Bool.false_eq_true,
        if_false, Option.bind_eq_bind, Option.bind_eq_some_iff, textIn, require_eq_some] at reads
      rcases reads with ⟨text, ⟨inner, isText, _, _, same⟩, reads⟩
      cases same
      split_ifs at reads with accepted <;> cases reads
      · refine ⟨rfl, rfl, rfl, ?_⟩
        rintro _ ⟨⟩
        cases isText
        simp [accepted, beq_eq_decide]
      · refine ⟨rfl, rfl, rfl, ?_⟩
        rintro _ ⟨⟩
        cases isText
        simp [accepted]

/-- The reader of a method's cursors. -/
def readCursor (build : Build) (method : String) (cursor : List UInt8) : CursorFields :=
  if method = "patches.list" then parsePatchCursor build cursor
  else parseDiscoveryCursor build cursor

/-- The parser stores the hash of a request and compares it with the one of the cursor. -/
structure Hashed (build : Build) (payload : Payload) (parsed : Request) : Prop where
  fingerprint : parsed.cursorFingerprint = some (fingerprintOf payload parsed)
  flagged : ∀ text, payload.lookup "cursor" = some (.string text) →
    parsed.discoveryCursorInvalid =
      !((readCursor build parsed.method (utf8 text)).accepted &&
        (readCursor build parsed.method (utf8 text)).fingerprint == fingerprintOf payload parsed)

theorem parseAddressReference_spec {value : Option Json} {address : AddressReference}
    (reads : parseAddressReference build value = some address)
    (valid : address.pointerWidthValid = true) :
    (∃ absolute, address = { absolute := absolute }) ∨
      ∃ module rva, address = { kind := .moduleRva, module := module, rva := rva } := by
  have plain : ∀ field, (parseAbsolute build field).pointerWidthValid = true →
      ∃ absolute, parseAbsolute build field = { absolute := absolute } := by
    intro field fieldValid
    rw [parseAbsolute] at fieldValid ⊢
    split at fieldValid
    · exact ⟨_, rfl⟩
    · cases fieldValid
  simp only [parseAddressReference, Option.bind_eq_bind] at reads
  split_ifs at reads with bare
  · cases reads
    exact .inl (plain value valid)
  · simp only [Option.bind_eq_some_iff] at reads
    rcases reads with ⟨reference, -, reads⟩
    split_ifs at reads with single
    · simp only [Option.bind_eq_some_iff, require_eq_some] at reads
      rcases reads with ⟨-, -, same⟩
      cases same
      exact .inl (plain _ valid)
    · simp only [Option.bind_eq_some_iff, require_eq_some] at reads
      rcases reads with ⟨-, -, module, -, -, -, same⟩
      cases same
      simp only at valid
      exact .inr ⟨module, _, by rw [valid]⟩

theorem scopeKey_congr {first second : Request}
    (query : first.listingQuery = second.listingQuery) : scopeKey first = scopeKey second := by
  simp only [Request.listingQuery, ListingQuery.mk.injEq] at query
  rcases query with ⟨-, module, address, scope, length, -⟩
  simp only [scopeKey, module, address, scope, length]

theorem fingerprintOf_congr {first second : Request}
    (query : first.listingQuery = second.listingQuery) (limit : first.pageLimit = second.pageLimit) :
    fingerprintOf payload first = fingerprintOf payload second := by
  have scope := scopeKey_congr query
  simp only [Request.listingQuery, ListingQuery.mk.injEq] at query
  rcases query with ⟨method, module, -, -, -, text, encoding, minimum, context, -⟩
  simp only [fingerprintOf, fingerprintBytes, fingerprintParts, method, module, scope, text,
    encoding, minimum, context, limit]

theorem hashed_of_discoveryCursor {expected : Nat}
    (reads : withDiscoveryCursor build request expected (payload.lookup "cursor") = some parsed)
    (noPatches : request.method ≠ "patches.list") (hash : expected = fingerprintOf payload request) :
    Hashed build payload parsed ∧ parsed.listingQuery = request.listingQuery := by
  rcases withDiscoveryCursor_spec reads with ⟨query, limit, fingerprint, flagged⟩
  have method : parsed.method = request.method := congrArg ListingQuery.method query
  rw [hash, ← fingerprintOf_congr query limit] at fingerprint flagged
  refine ⟨⟨fingerprint, ?_⟩, query⟩
  simp only [readCursor, method, if_neg noPatches]
  exact flagged

theorem hashed_of_patchCursor {expected : Nat}
    (reads : withPatchCursor build request expected (payload.lookup "cursor") = some parsed)
    (isPatches : request.method = "patches.list") (hash : expected = fingerprintOf payload request) :
    Hashed build payload parsed ∧ parsed.listingQuery = request.listingQuery := by
  rcases withPatchCursor_spec reads with ⟨query, limit, fingerprint, flagged⟩
  have method : parsed.method = request.method := congrArg ListingQuery.method query
  rw [hash, ← fingerprintOf_congr query limit] at fingerprint flagged
  refine ⟨⟨fingerprint, ?_⟩, query⟩
  simp only [readCursor, method, if_pos isPatches]
  exact flagged

/-- A query that is given is not empty. -/
theorem ne_empty_of_textIn {value : Option Json} {high : Nat} {text : String}
    (reads : textIn value 1 high = some text) : text ≠ "" := by
  simp only [textIn, Option.bind_eq_bind, Option.bind_eq_some_iff, require_eq_some] at reads
  rcases reads with ⟨inner, -, -, bounds, same⟩
  cases same
  rintro rfl
  exact absurd bounds.1 (by decide)

/-- A request as the envelope leaves it, before its payload is read. -/
def Request.Unfilled (request : Request) : Prop :=
  request.listingQuery = { method := request.method }

theorem parseReferences_spec {maxQueryBytes : Nat} (unfilled : request.Unfilled)
    (noSearch : request.method ≠ "memory.search") (noPatches : request.method ≠ "patches.list")
    (reads : parseDiscovery build payload request true false maxQueryBytes = some parsed) :
    Hashed build payload parsed ∧
      ∃ address, parsed.listingQuery = { method := request.method, address := address } ∧
        parseAddressReference build (payload.lookup "address") = some address := by
  simp only [Request.Unfilled, Request.listingQuery, ListingQuery.mk.injEq, true_and] at unfilled
  rcases unfilled with ⟨module, -, scope, length, -, encoding, minimum, context, pattern⟩
  simp only [parseDiscovery, Option.bind_eq_bind, Option.bind_eq_some_iff, require_eq_some, if_true,
    Option.pure_def] at reads
  rcases reads with ⟨-, -, address, addressed, _, ⟨⟩, -, ⟨rules, -, plain, -⟩, query, queried,
    stringEncoding, encoded, minLength, minimal, contextBytes, contextual, pageLimit, -, reads⟩
  rcases rules trivial with ⟨-, noQuery⟩
  rcases plain rfl with ⟨noEncoding, noMinimum, noContext⟩
  simp only [unlessMissing, integerOr, noQuery, noEncoding, noMinimum, noContext, if_true,
    Option.some.injEq] at queried encoded minimal contextual
  subst queried encoded minimal contextual
  have hashed := hashed_of_discoveryCursor reads noPatches
    (by simp [fingerprintOf, fingerprintBytes, fingerprintParts, noSearch, noPatches,
      discoveryFingerprint])
  refine ⟨hashed.1, address, ?_, addressed⟩
  rw [hashed.2]
  simp [Request.listingQuery, module, scope, length, encoding, minimum, context, pattern]

theorem parseFilters_spec {strings : Bool} {maxQueryBytes : Nat} (unfilled : request.Unfilled)
    (noSearch : request.method ≠ "memory.search") (noPatches : request.method ≠ "patches.list")
    (reads : parseDiscovery build payload request false strings maxQueryBytes = some parsed) :
    Hashed build payload parsed ∧
      ∃ module query encoding minimum context,
        parsed.listingQuery =
          { method := request.method, module := module, query := query,
            stringEncoding := encoding, minStringLength := minimum,
            stringContextBytes := context } ∧
        (query = "" → context = 64) := by
  simp only [Request.Unfilled, Request.listingQuery, ListingQuery.mk.injEq, true_and] at unfilled
  rcases unfilled with ⟨-, address, scope, length, -, -, -, context, pattern⟩
  simp only [parseDiscovery, Option.bind_eq_bind, Option.bind_eq_some_iff, require_eq_some,
    Bool.false_eq_true, if_false, Option.pure_def] at reads
  rcases reads with ⟨-, -, module, moduled, _, ⟨⟩, -, ⟨-, -, -, withQuery⟩, query, queried,
    stringEncoding, -, minLength, -, contextBytes, contextual, pageLimit, -, reads⟩
  have hashed := hashed_of_discoveryCursor reads noPatches
    (by simp [fingerprintOf, fingerprintBytes, fingerprintParts, noSearch, noPatches,
      discoveryFingerprint])
  refine ⟨hashed.1, module, query, stringEncoding, minLength, contextBytes, ?_, ?_⟩
  · rw [hashed.2]
    simp [Request.listingQuery, address, scope, length, pattern]
  · rintro rfl
    by_cases noQuery : (payload.lookup "query").isNone
    · have noContext : (payload.lookup "context_bytes").isNone := by
        by_contra some
        rw [Bool.not_eq_true, Option.isNone_eq_false_iff] at some
        rw [← Option.not_isSome, withQuery some] at noQuery
        cases noQuery
      rw [integerOr, if_pos noContext, Option.some.injEq] at contextual
      rw [← contextual, context]
    · rw [unlessMissing, if_neg noQuery, Option.bind_eq_some_iff] at queried
      rcases queried with ⟨text, reads, rest⟩
      simp only [Option.bind_eq_some_iff, Option.some.injEq] at rest
      rcases rest with ⟨-, -, rfl⟩
      exact absurd rfl (ne_empty_of_textIn reads)

theorem parsePatchesList_spec (unfilled : request.Unfilled)
    (isPatches : request.method = "patches.list")
    (reads : parsePatchesList build payload request = some parsed) :
    Hashed build payload parsed ∧
      ∃ module, parsed.listingQuery = { method := request.method, module := module } := by
  simp only [Request.Unfilled, Request.listingQuery, ListingQuery.mk.injEq, true_and] at unfilled
  rcases unfilled with ⟨-, address, scope, length, query, encoding, minimum, context, pattern⟩
  simp only [parsePatchesList, Option.bind_eq_bind, Option.bind_eq_some_iff] at reads
  rcases reads with ⟨-, -, module, -, pageLimit, -, reads⟩
  have hashed := hashed_of_patchCursor reads isPatches
    (by simp [fingerprintOf, fingerprintBytes, fingerprintParts, isPatches, discoveryFingerprint])
  refine ⟨hashed.1, module, ?_⟩
  rw [hashed.2]
  simp [Request.listingQuery, address, scope, length, query, encoding, minimum, context, pattern]

/-- A pattern comes from the texts of the payload. -/
def PatternOf (payload : Payload) (pattern : MemoryPattern) : Prop :=
  ∃ patternText maskText, Payload.text payload "pattern_hex" = utf8 patternText ∧
    Payload.text payload "mask" = utf8 maskText ∧
    parseMemoryPattern patternText maskText = some pattern

/-- A search goes through a module or through a range that starts at an address. -/
inductive SearchTarget where
  | module (name : String)
  | absolute (address length : Nat)
  | moduleRva (name : String) (rva length : Nat)

/-- The text of a target in the fingerprint. -/
def SearchTarget.key : SearchTarget → List UInt8
  | module name => utf8 "module:" ++ utf8 name
  | absolute address length =>
      utf8 "absolute:" ++ decimal address ++ utf8 ":" ++ decimal length
  | moduleRva name rva length =>
      utf8 "module_rva:" ++ utf8 name ++ utf8 ":" ++ decimal rva ++ utf8 ":" ++ decimal length

/-- The query of a search. -/
def SearchTarget.listingQuery (pattern : MemoryPattern) : SearchTarget → ListingQuery
  | module name =>
      { method := "memory.search", module := name, memorySearchModuleScope := true,
        memoryPattern := pattern }
  | absolute address length =>
      { method := "memory.search", address := { absolute := address }, length := length,
        memoryPattern := pattern }
  | moduleRva name rva length =>
      { method := "memory.search",
        address := { kind := .moduleRva, module := name, rva := rva }, length := length,
        memoryPattern := pattern }

theorem SearchTarget.key_injective : Function.Injective SearchTarget.key := by
  have colon : utf8 ":" = [0x3a] := rfl
  intro first second same
  cases first <;> cases second <;>
    simp only [key, colon, List.append_assoc, List.singleton_append, List.append_cancel_left_eq]
      at same
  case module.module name other => rw [utf8_injective same]
  case absolute.absolute address length other otherLength =>
    rcases append_numeral_inj (colon_notMem_decimal _) (colon_notMem_decimal _) same with
      ⟨addresses, lengths⟩
    rw [decimal_injective addresses, decimal_injective lengths]
  case moduleRva.moduleRva name rva length other otherRva otherLength =>
    have split : (utf8 name ++ 0x3a :: decimal rva) ++ 0x3a :: decimal length =
        (utf8 other ++ 0x3a :: decimal otherRva) ++ 0x3a :: decimal otherLength := by
      simpa using same
    rcases append_numeral_inj (colon_notMem_decimal _) (colon_notMem_decimal _) split with
      ⟨starts, lengths⟩
    rcases append_numeral_inj (colon_notMem_decimal _) (colon_notMem_decimal _) starts with
      ⟨names, rvas⟩
    rw [utf8_injective names, decimal_injective rvas, decimal_injective lengths]
  all_goals
    have heads := congrArg (List.take 7) same
    simp [utf8, String.utf8EncodeChar] at heads

theorem parseMemorySearch_spec (unfilled : request.Unfilled)
    (isSearch : request.method = "memory.search")
    (reads : parseMemorySearch build payload request = some parsed)
    (valid : parsed.address.pointerWidthValid = true) :
    Hashed build payload parsed ∧
      ∃ target pattern, PatternOf payload pattern ∧ scopeKey parsed = SearchTarget.key target ∧
        parsed.listingQuery = target.listingQuery pattern := by
  simp only [Request.Unfilled, Request.listingQuery, ListingQuery.mk.injEq, true_and] at unfilled
  rcases unfilled with ⟨module, address, scope, length, query, encoding, minimum, context, -⟩
  simp only [parseMemorySearch, Option.bind_eq_bind, Option.bind_eq_some_iff] at reads
  rcases reads with ⟨-, -, patternText, patternRead, maskText, maskRead, ranged, within, pattern,
    patterned, pageLimit, -, reads⟩
  have hexText : Payload.text payload "pattern_hex" = utf8 patternText := by
    rw [Payload.text, patternRead, Option.getD_some]
  have exactText : Payload.text payload "mask" = utf8 maskText := by
    rw [Payload.text, maskRead, Option.getD_some]
  have texts : PatternOf payload pattern := ⟨patternText, maskText, hexText, exactText, patterned⟩
  simp only [parseScope, Option.bind_eq_bind, Option.bind_eq_some_iff] at within
  rcases within with ⟨fields, -, within⟩
  split_ifs at within with inModule
  · simp only [Option.bind_eq_some_iff] at within
    rcases within with ⟨-, -, name, -, ⟨⟩⟩
    have hashed := hashed_of_discoveryCursor reads (by simp [isSearch])
      (by simp [fingerprintOf, fingerprintBytes, fingerprintParts, isSearch, discoveryFingerprint,
        hexText, exactText, scopeKey])
    refine ⟨hashed.1, .module name, pattern, texts, ?_, ?_⟩
    · rw [scopeKey_congr hashed.2]
      rfl
    · rw [hashed.2]
      simp [Request.listingQuery, SearchTarget.listingQuery, isSearch, address, length, query,
        encoding, minimum, context]
  · simp only [Option.bind_eq_some_iff] at within
    rcases within with ⟨-, -, start, addressed, size, -, ⟨⟩⟩
    have hashed := hashed_of_discoveryCursor reads (by simp [isSearch])
      (by simp [fingerprintOf, fingerprintBytes, fingerprintParts, isSearch, discoveryFingerprint,
        hexText, exactText, scopeKey])
    have same : parsed.address = start := congrArg ListingQuery.address hashed.2
    rw [same] at valid
    rcases parseAddressReference_spec addressed valid with ⟨absolute, rfl⟩ | ⟨name, rva, rfl⟩
    · refine ⟨hashed.1, .absolute absolute size, pattern, texts, ?_, ?_⟩
      · rw [scopeKey_congr hashed.2]
        simp [scopeKey, SearchTarget.key, scope]
      · rw [hashed.2]
        simp [Request.listingQuery, SearchTarget.listingQuery, isSearch, module, scope, query,
          encoding, minimum, context]
    · refine ⟨hashed.1, .moduleRva name rva size, pattern, texts, ?_, ?_⟩
      · rw [scopeKey_congr hashed.2]
        simp [scopeKey, SearchTarget.key, scope]
      · rw [hashed.2]
        simp [Request.listingQuery, SearchTarget.listingQuery, isSearch, module, scope, query,
          encoding, minimum, context]

/-- What a listing request asks, by its method. -/
structure Asks (build : Build) (payload : Payload) (parsed : Request) : Prop
    extends Hashed build payload parsed where
  search : parsed.method = "memory.search" → ∃ target pattern, PatternOf payload pattern ∧
    scopeKey parsed = SearchTarget.key target ∧ parsed.listingQuery = target.listingQuery pattern
  patches : parsed.method = "patches.list" →
    ∃ module, parsed.listingQuery = { method := parsed.method, module := module }
  references : parsed.method = "references.to" →
    ∃ address, parsed.listingQuery = { method := parsed.method, address := address }
  filters : parsed.method ∉ ["memory.search", "patches.list", "references.to"] →
    ∃ module query encoding minimum context,
      parsed.listingQuery =
        { method := parsed.method, module := module, query := query, stringEncoding := encoding,
          minStringLength := minimum, stringContextBytes := context } ∧
      (query = "" → context = 64)

/-- The parser of a method that filters the records of a module. -/
theorem asks_of_parseFilters {strings : Bool} {maxQueryBytes : Nat} (unfilled : request.Unfilled)
    (other : request.method ∉ ["memory.search", "patches.list", "references.to"])
    (reads : parseDiscovery build payload request false strings maxQueryBytes = some parsed) :
    Asks build payload parsed := by
  have absent := other
  simp only [List.mem_cons, List.not_mem_nil, or_false, not_or] at absent
  rcases parseFilters_spec unfilled absent.1 absent.2.1 reads with
    ⟨hashed, module, query, encoding, minimum, context, asked, default⟩
  have method : parsed.method = request.method := congrArg ListingQuery.method asked
  rw [← method] at asked absent
  exact
    { hashed with
      search := fun isSearch => absurd isSearch absent.1
      patches := fun isPatches => absurd isPatches absent.2.1
      references := fun isReferences => absurd isReferences absent.2.2
      filters := fun _ => ⟨module, query, encoding, minimum, context, asked, default⟩ }

theorem asks_of_parsePayload (unfilled : request.Unfilled)
    (listed : request.method ∈ listingMethods)
    (reads : parsePayload build payload request = some parsed)
    (valid : parsed.address.pointerWidthValid = true) : Asks build payload parsed := by
  simp only [listingMethods, List.mem_cons, List.not_mem_nil, or_false] at listed
  rw [parsePayload] at reads
  rcases listed with symbols | functions | strings | references | imports | exports | sections |
    search | patches
  case inl =>
    rw [symbols, show Tool.ofName "symbols.search" = some .symbolsSearch by decide] at reads
    exact asks_of_parseFilters unfilled (by rw [symbols]; decide) reads
  case inr.inl =>
    rw [functions, show Tool.ofName "functions.list" = some .functionsList by decide] at reads
    exact asks_of_parseFilters unfilled (by rw [functions]; decide) reads
  case inr.inr.inl =>
    rw [strings, show Tool.ofName "strings.search" = some .stringsSearch by decide] at reads
    exact asks_of_parseFilters unfilled (by rw [strings]; decide) reads
  case inr.inr.inr.inl =>
    rw [references, show Tool.ofName "references.to" = some .referencesTo by decide] at reads
    rcases parseReferences_spec unfilled (by rw [references]; decide) (by rw [references]; decide)
      reads with ⟨hashed, address, asked, -⟩
    have method : parsed.method = "references.to" :=
      (congrArg ListingQuery.method asked).trans references
    exact
      { hashed with
        search := fun isSearch => absurd (method.symm.trans isSearch) (by decide)
        patches := fun isPatches => absurd (method.symm.trans isPatches) (by decide)
        references := fun _ => ⟨address, by rw [asked, method, references]⟩
        filters := fun other => absurd (by rw [method]; decide) other }
  case inr.inr.inr.inr.inl =>
    rw [imports, show Tool.ofName "imports.list" = some .importsList by decide] at reads
    exact asks_of_parseFilters unfilled (by rw [imports]; decide) reads
  case inr.inr.inr.inr.inr.inl =>
    rw [exports, show Tool.ofName "exports.list" = some .exportsList by decide] at reads
    exact asks_of_parseFilters unfilled (by rw [exports]; decide) reads
  case inr.inr.inr.inr.inr.inr.inl =>
    rw [sections, show Tool.ofName "sections.list" = some .sectionsList by decide] at reads
    exact asks_of_parseFilters unfilled (by rw [sections]; decide) reads
  case inr.inr.inr.inr.inr.inr.inr.inl =>
    rw [search, show Tool.ofName "memory.search" = some .memorySearch by decide] at reads
    rcases parseMemorySearch_spec unfilled search reads valid with ⟨hashed, target, pattern, asked⟩
    have method : parsed.method = "memory.search" := by
      rw [show parsed.method = parsed.listingQuery.method from rfl, asked.2.2]
      cases target <;> rfl
    exact
      { hashed with
        search := fun _ => ⟨target, pattern, asked⟩
        patches := fun isPatches => absurd (method.symm.trans isPatches) (by decide)
        references := fun isReferences => absurd (method.symm.trans isReferences) (by decide)
        filters := fun other => absurd (by rw [method]; decide) other }
  case inr.inr.inr.inr.inr.inr.inr.inr =>
    rw [patches, show Tool.ofName "patches.list" = some .patchesList by decide] at reads
    rcases parsePatchesList_spec unfilled patches reads with ⟨hashed, module, asked⟩
    have method : parsed.method = "patches.list" :=
      (congrArg ListingQuery.method asked).trans patches
    exact
      { hashed with
        search := fun isSearch => absurd (method.symm.trans isSearch) (by decide)
        patches := fun _ => ⟨module, by rw [asked, method, patches]⟩
        references := fun isReferences => absurd (method.symm.trans isReferences) (by decide)
        filters := fun other => absurd (by rw [method]; decide) other }

end Parsers

/-! ## Binding -/

/-- The envelope of a request. -/
def envelopeOf (loadb : List UInt8 → Option Json) (bytes : List UInt8) : Option Payload :=
  (loadb bytes).bind Json.asObject

/-- A listing request that is accepted.  An address that does not fit the width of a
pointer is refused before anything is listed. -/
structure AcceptedListing (build : Build) (loadb : List UInt8 → Option Json) (bytes : List UInt8)
    (payload : Payload) (request : Request) : Prop where
  listed : ∃ fields, envelopeOf loadb bytes = some fields ∧
    fields.lookup "payload" = some (.object payload) ∧
    ∃ method ∈ listingMethods, fields.lookup "method" = some (.string method)
  parsed : parseRequest build loadb bytes = some request
  width : request.address.pointerWidthValid = true

section Binding

variable {build : Build} {loadb : List UInt8 → Option Json}

theorem AcceptedListing.asks {bytes : List UInt8} {payload : Payload} {request : Request}
    (accepted : AcceptedListing build loadb bytes payload request) :
    Asks build payload request := by
  rcases accepted.listed with ⟨fields, envelope, carries, method, listed, named⟩
  rcases Option.bind_eq_some_iff.mp envelope with ⟨root, loaded, isObject⟩
  have parsed := accepted.parsed
  simp only [parseRequest, Option.bind_eq_bind, Option.bind_eq_some_iff, Option.pure_def] at parsed
  rcases parsed with ⟨other, otherLoaded, others, otherObject, -, -, requestId, -, deadline, -,
    operationId, -, name, isName, found, ⟨value, isValue, isPayload⟩, -, -, -, -, -, -, filled,
    reads, -, -, ⟨⟩⟩
  cases loaded.symm.trans otherLoaded
  cases isObject.symm.trans otherObject
  cases carries.symm.trans isValue
  cases isPayload
  rw [named] at isName
  cases isName
  refine asks_of_parsePayload ?_ ?_ reads accepted.width
  · exact rfl
  · exact listed

theorem length_fingerprintParts (payload : Payload) (request : Request) :
    (fingerprintParts payload request).length = 6 := by
  rw [fingerprintParts]
  split_ifs <;> rfl

theorem marker_notMem_decimal (value : Nat) : 0xff ∉ decimal value :=
  marker_notMem_utf8 value.repr

theorem marker_notMem_scopeKey (request : Request) : 0xff ∉ scopeKey request := by
  rw [scopeKey]
  split_ifs <;>
    simp only [List.mem_append, marker_notMem_utf8, marker_notMem_decimal, or_self, not_false_eq_true]

theorem marker_notMem_fingerprintParts {payload : Payload} {request : Request} :
    ∀ part ∈ fingerprintParts payload request, 0xff ∉ part := by
  rw [fingerprintParts]
  split_ifs <;>
    simp only [List.forall_mem_cons, Payload.text, marker_notMem_utf8, marker_notMem_decimal,
      marker_notMem_scopeKey, List.not_mem_nil, not_false_eq_true, and_self, implies_true,
      IsEmpty.forall_iff]

/-- Equal parts come from equal methods. -/
theorem method_eq_of_parts {firstPayload secondPayload : Payload} {first second : Request}
    (parts : fingerprintParts firstPayload first = fingerprintParts secondPayload second) :
    first.method = second.method := by
  have head : ∀ (payload : Payload) (request : Request),
      (fingerprintParts payload request).head? = some (utf8 request.method) := by
    intro payload request
    rw [fingerprintParts]
    split_ifs <;> rfl
  have same := congrArg List.head? parts
  rw [head, head, Option.some.injEq] at same
  exact utf8_injective same

/-- Equal parts come from equal queries, but for the address of a reference search. -/
theorem listingQuery_eq_of_parts {firstPayload secondPayload : Payload} {first second : Request}
    (firstAsks : Asks build firstPayload first) (secondAsks : Asks build secondPayload second)
    (parts : fingerprintParts firstPayload first = fingerprintParts secondPayload second)
    (addresses : first.method = "references.to" → first.address = second.address) :
    first.listingQuery = second.listingQuery := by
  have method := method_eq_of_parts parts
  by_cases search : first.method = "memory.search"
  · have otherSearch : second.method = "memory.search" := method.symm.trans search
    rcases firstAsks.search search with
      ⟨target, pattern, ⟨hexText, maskText, hex, mask, reads⟩, key, asked⟩
    rcases secondAsks.search otherSearch with
      ⟨other, otherPattern, ⟨otherHexText, otherMaskText, otherHex, otherMask, otherReads⟩,
        otherKey, otherAsked⟩
    simp only [fingerprintParts, search, otherSearch, if_true, key, otherKey, hex, otherHex, mask,
      otherMask, List.cons.injEq, true_and] at parts
    rcases parts with ⟨keys, hexes, masks, -⟩
    rw [SearchTarget.key_injective keys] at asked
    rw [utf8_injective hexes, utf8_injective masks, otherReads, Option.some.injEq] at reads
    rw [asked, otherAsked, reads]
  have otherSearch : second.method ≠ "memory.search" := method ▸ search
  by_cases patches : first.method = "patches.list"
  · have otherPatches : second.method = "patches.list" := method.symm.trans patches
    rcases firstAsks.patches patches with ⟨module, asked⟩
    rcases secondAsks.patches otherPatches with ⟨otherModule, otherAsked⟩
    have modules : first.module = second.module := by
      simp only [fingerprintParts, if_neg search, if_neg otherSearch, if_pos patches,
        if_pos otherPatches, List.cons.injEq] at parts
      exact utf8_injective parts.2.1
    have isModule : first.module = module := congrArg ListingQuery.module asked
    have isOther : second.module = otherModule := congrArg ListingQuery.module otherAsked
    rw [asked, otherAsked, method, ← isModule, ← isOther, modules]
  have otherPatches : second.method ≠ "patches.list" := method ▸ patches
  by_cases references : first.method = "references.to"
  · rcases firstAsks.references references with ⟨address, asked⟩
    rcases secondAsks.references (method.symm.trans references) with ⟨otherAddress, otherAsked⟩
    have isAddress : first.address = address := congrArg ListingQuery.address asked
    have isOther : second.address = otherAddress := congrArg ListingQuery.address otherAsked
    rw [asked, otherAsked, method, ← isAddress, ← isOther, addresses references]
  have unlisted : first.method ∉ ["memory.search", "patches.list", "references.to"] := by
    simp [search, patches, references]
  rcases firstAsks.filters unlisted with
    ⟨module, query, encoding, minimum, context, asked, default⟩
  rcases secondAsks.filters (method ▸ unlisted) with
    ⟨otherModule, otherQuery, otherEncoding, otherMinimum, otherContext, otherAsked, otherDefault⟩
  have fields := asked
  have otherFields := otherAsked
  simp only [Request.listingQuery, ListingQuery.mk.injEq] at fields otherFields
  simp only [fingerprintParts, if_neg search, if_neg otherSearch, if_neg patches,
    if_neg otherPatches, fields, otherFields, List.cons.injEq, and_true] at parts
  rcases parts with ⟨-, modules, queries, encodings, minimums, contexts⟩
  have sameQuery := utf8_injective queries
  have sameContext : context = otherContext := by
    have hashed := decimal_injective contexts
    split_ifs at hashed with empty otherEmpty otherEmpty
    · rw [default empty, otherDefault otherEmpty]
    · exact absurd (sameQuery ▸ empty) otherEmpty
    · exact absurd (sameQuery.symm ▸ otherEmpty) empty
    · exact hashed
  rw [asked, otherAsked, method, utf8_injective modules, sameQuery, utf8_injective encodings,
    decimal_injective minimums, sameContext]

/-- A reference search tells nothing but its method. -/
theorem parts_eq_of_references {firstPayload secondPayload : Payload} {first second : Request}
    (firstAsks : Asks build firstPayload first) (secondAsks : Asks build secondPayload second)
    (firstReferences : first.method = "references.to")
    (secondReferences : second.method = "references.to") :
    fingerprintParts firstPayload first = fingerprintParts secondPayload second := by
  rcases firstAsks.references firstReferences with ⟨address, asked⟩
  rcases secondAsks.references secondReferences with ⟨otherAddress, otherAsked⟩
  simp only [Request.listingQuery, ListingQuery.mk.injEq] at asked otherAsked
  simp [fingerprintParts, firstReferences, secondReferences, asked, otherAsked]

/-- A printed cursor passes exactly where the hashes agree and the cursors are of one kind. -/
theorem flagged_printedCursor {firstPayload secondPayload : Payload} {first second : Request}
    (firstHashed : Hashed build firstPayload first)
    (secondHashed : Hashed build secondPayload second) {generation snapshotFingerprint index : Nat}
    (narrow : build.limit ≤ 2 ^ 64) (generationFits : generation < 2 ^ 64)
    (snapshotFits : snapshotFingerprint < 2 ^ 64) (indexFits : index < build.limit)
    (carried : secondPayload.lookup "cursor" =
      some (.string (printedCursor first generation snapshotFingerprint index))) :
    second.discoveryCursorInvalid = false ↔
      (first.method = "patches.list" ↔ second.method = "patches.list") ∧
        fingerprintOf firstPayload first = fingerprintOf secondPayload second := by
  rw [secondHashed.flagged _ carried]
  have printed : first.cursorFingerprint.getD 0 = fingerprintOf firstPayload first := by
    rw [firstHashed.fingerprint, Option.getD_some]
  have fits : first.cursorFingerprint.getD 0 < 2 ^ 64 := by
    rw [printed]
    exact UInt64.toNat_lt _
  by_cases firstPatches : first.method = "patches.list" <;>
    by_cases secondPatches : second.method = "patches.list"
  · simp only [printedCursor, readCursor, if_pos firstPatches, if_pos secondPatches,
      parsePatchCursor_patchCursor narrow generationFits fits indexFits snapshotFits, printed]
    simp [firstPatches, secondPatches]
  · have refused : (parseDiscoveryCursor build
        (utf8 (patchCursor first generation snapshotFingerprint index))).accepted = false := by
      have mark : (utf8 "v3:").length = 3 := rfl
      rw [utf8_patchCursor, parseDiscoveryCursor, List.take_left' mark, if_pos (.inl (by decide))]
    simp [printedCursor, readCursor, firstPatches, secondPatches, refused]
  · have refused : (parsePatchCursor build
        (utf8 (discoveryCursor first generation index))).accepted = false := by
      have mark : (utf8 "v2:").length = 3 := rfl
      rw [utf8_discoveryCursor, parsePatchCursor, List.take_left' mark, if_pos (.inl (by decide))]
    simp [printedCursor, readCursor, firstPatches, secondPatches, refused]
  · simp only [printedCursor, readCursor, if_neg firstPatches, if_neg secondPatches,
      parseDiscoveryCursor_discoveryCursor narrow generationFits fits indexFits, printed]
    simp [firstPatches, secondPatches]

/-- A cursor that a listing prints binds the requests that take it to the same query,
unless it continues a reference search at another address. -/
theorem cursor_binds_query {firstBytes secondBytes : List UInt8}
    {firstPayload secondPayload : Payload} {first second : Request}
    {generation snapshotFingerprint index : Nat}
    (firstAccepted : AcceptedListing build loadb firstBytes firstPayload first)
    (secondAccepted : AcceptedListing build loadb secondBytes secondPayload second)
    (injective : fingerprintOf firstPayload first = fingerprintOf secondPayload second →
      fingerprintBytes firstPayload first = fingerprintBytes secondPayload second)
    (narrow : build.limit ≤ 2 ^ 64) (generationFits : generation < 2 ^ 64)
    (snapshotFits : snapshotFingerprint < 2 ^ 64) (indexFits : index < build.limit)
    (carried : secondPayload.lookup "cursor" =
      some (.string (printedCursor first generation snapshotFingerprint index))) :
    (second.discoveryCursorInvalid = false → first.listingQuery = second.listingQuery) ↔
      ¬(first.method = "references.to" ∧ second.method = "references.to" ∧
        first.address ≠ second.address) := by
  have firstAsks := firstAccepted.asks
  have secondAsks := secondAccepted.asks
  rw [flagged_printedCursor firstAsks.toHashed secondAsks.toHashed narrow generationFits
    snapshotFits indexFits carried]
  constructor
  · rintro bound ⟨firstReferences, secondReferences, addresses⟩
    have parts := parts_eq_of_references firstAsks secondAsks firstReferences secondReferences
    have hash : fingerprintOf firstPayload first = fingerprintOf secondPayload second := by
      rw [fingerprintOf, fingerprintOf, fingerprintBytes, fingerprintBytes, parts]
    have same := bound ⟨by rw [firstReferences, secondReferences], hash⟩
    exact addresses (congrArg ListingQuery.address same)
  · rintro apart ⟨-, hash⟩
    have parts := fingerprintInput_injective
      ((length_fingerprintParts _ _).trans (length_fingerprintParts _ _).symm)
      marker_notMem_fingerprintParts marker_notMem_fingerprintParts (injective hash)
    refine listingQuery_eq_of_parts firstAsks secondAsks parts fun references => ?_
    by_contra addresses
    exact apart ⟨references, (method_eq_of_parts parts).symm.trans references, addresses⟩

end Binding

/-! ## Two reference searches -/

/-- The fields of a search for references. -/
def referenceFields (payload : Payload) : Payload :=
  [("request_id", .string "6f9619ff-8b86-4d11-b42d-00c04fc964ff"),
    ("deadline_unix_ms", .number (.posInt 1760000000000)), ("operation_id", .null),
    ("method", .string "references.to"), ("payload", .object payload)]

/-- The search for references. -/
def referenceSearch (payload : Payload) : Json :=
  .object (referenceFields payload)

/-- The same as it is sent. -/
def referenceSearchText (payload : String) : List UInt8 :=
  utf8 "\x7b\"request_id\":\"6f9619ff-8b86-4d11-b42d-00c04fc964ff\"," ++
    (utf8 "\"deadline_unix_ms\":1760000000000,\"operation_id\":null," ++
      (utf8 "\"method\":\"references.to\",\"payload\":" ++ (utf8 payload ++ utf8 "\x7d")))

/-- A search without a cursor. -/
def startPayload : Payload :=
  [("address", .string "0x1000")]

/-- The same as it is sent. -/
def startBytes : List UInt8 :=
  referenceSearchText "\x7b\"address\":\"0x1000\"\x7d"

/-- The search at another address takes the cursor of the first one. -/
def strayPayload : Payload :=
  [("address", .string "0x2000"), ("cursor", .string "v2:7:8b6d9c3b85e68ab3:100")]

/-- The cursor of that search, sent with another address. -/
def strayBytes : List UInt8 :=
  referenceSearchText
    "\x7b\"address\":\"0x2000\",\"cursor\":\"v2:7:8b6d9c3b85e68ab3:100\"\x7d"

/-- The JSON reader on the two texts. -/
def loadSearches (bytes : List UInt8) : Option Json :=
  if bytes = startBytes then some (referenceSearch startPayload)
  else if bytes = strayBytes then some (referenceSearch strayPayload)
  else none

/-- The build for 64 bits. -/
def searchBuild : Build where
  pointerBytes := 8
  maxConditionalExprSize := 256

theorem loadSearches_start : loadSearches startBytes = some (referenceSearch startPayload) :=
  if_pos rfl

theorem loadSearches_stray : loadSearches strayBytes = some (referenceSearch strayPayload) := by
  have other : strayBytes ≠ startBytes := by
    intro same
    have ends := List.append_cancel_left (List.append_cancel_left (List.append_cancel_left same))
    have payloads := utf8_injective (List.append_cancel_right ends)
    exact absurd payloads (by decide)
  rw [loadSearches, if_neg other, if_pos rfl]

/-- The reader of the JSON text decides what is parsed. -/
theorem parseRequest_of_loaded {build : Build} {loadb : List UInt8 → Option Json}
    {bytes : List UInt8} {root : Json} (loaded : loadb bytes = some root) :
    parseRequest build loadb bytes = parseRequest build (fun _ => some root) [] := by
  simp only [parseRequest, loaded]

theorem accepted_start :
    ∃ first, AcceptedListing searchBuild loadSearches startBytes startPayload first ∧
      first.method = "references.to" ∧ first.address = { absolute := 0x1000 } ∧
      printedCursor first 7 0 100 = "v2:7:8b6d9c3b85e68ab3:100" := by
  have facts : (parseRequest searchBuild loadSearches startBytes).map
      (fun first => (first.method, first.address, printedCursor first 7 0 100)) =
        some ("references.to", { absolute := 0x1000 }, "v2:7:8b6d9c3b85e68ab3:100") := by
    rw [parseRequest_of_loaded loadSearches_start]
    decide +kernel
  rcases Option.map_eq_some_iff.mp facts with ⟨first, parsed, fields⟩
  simp only [Prod.mk.injEq] at fields
  refine ⟨first, ⟨?_, parsed, by rw [fields.2.1]⟩, fields⟩
  refine ⟨referenceFields startPayload, ?_, rfl, "references.to", by decide, rfl⟩
  rw [envelopeOf, loadSearches_start]
  rfl

theorem accepted_stray :
    ∃ second, AcceptedListing searchBuild loadSearches strayBytes strayPayload second ∧
      second.method = "references.to" ∧ second.address = { absolute := 0x2000 } ∧
      second.discoveryCursorInvalid = false := by
  have facts : (parseRequest searchBuild loadSearches strayBytes).map
      (fun second => (second.method, second.address, second.discoveryCursorInvalid)) =
        some ("references.to", { absolute := 0x2000 }, false) := by
    rw [parseRequest_of_loaded loadSearches_stray]
    decide +kernel
  rcases Option.map_eq_some_iff.mp facts with ⟨second, parsed, fields⟩
  simp only [Prod.mk.injEq] at fields
  refine ⟨second, ⟨?_, parsed, by rw [fields.2.1]⟩, fields⟩
  refine ⟨referenceFields strayPayload, ?_, rfl, "references.to", by decide, rfl⟩
  rw [envelopeOf, loadSearches_stray]
  rfl

/-- A cursor of the references to 0x1000 is taken for the references to 0x2000. -/
theorem references_cursor_strays :
    ∃ first second,
      AcceptedListing searchBuild loadSearches startBytes startPayload first ∧
      AcceptedListing searchBuild loadSearches strayBytes strayPayload second ∧
      strayPayload.lookup "cursor" = some (.string (printedCursor first 7 0 100)) ∧
      second.discoveryCursorInvalid = false ∧ first.listingQuery ≠ second.listingQuery := by
  rcases accepted_start with ⟨first, firstAccepted, -, firstAddress, printed⟩
  rcases accepted_stray with ⟨second, secondAccepted, -, secondAddress, passes⟩
  refine ⟨first, second, firstAccepted, secondAccepted, by rw [printed]; rfl, passes, ?_⟩
  intro same
  have addresses : first.address = second.address := congrArg ListingQuery.address same
  rw [firstAddress, secondAddress] at addresses
  cases addresses

theorem cursor_binds_query_strays :
    ∃ first second,
      AcceptedListing searchBuild loadSearches startBytes startPayload first ∧
      AcceptedListing searchBuild loadSearches strayBytes strayPayload second ∧
      ((second.discoveryCursorInvalid = false → first.listingQuery = second.listingQuery) ↔
        ¬(first.method = "references.to" ∧ second.method = "references.to" ∧
          first.address ≠ second.address)) := by
  rcases accepted_start with ⟨first, firstAccepted, firstMethod, -, printed⟩
  rcases accepted_stray with ⟨second, secondAccepted, secondMethod, -⟩
  have parts := parts_eq_of_references firstAccepted.asks secondAccepted.asks firstMethod
    secondMethod
  refine ⟨first, second, firstAccepted, secondAccepted, cursor_binds_query firstAccepted secondAccepted (fun _ => ?_) (by decide)
    (by decide : 7 < 2 ^ 64) (by decide : 0 < 2 ^ 64) (by decide : 100 < searchBuild.limit)
    (by rw [printed]; rfl)⟩
  rw [fingerprintBytes, fingerprintBytes, parts]

end X64dbgMcp.Plugin
