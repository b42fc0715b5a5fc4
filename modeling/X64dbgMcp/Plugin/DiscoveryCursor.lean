import X64dbgMcp.Plugin.Request

/-!
# Cursors as the plugin prints them

A page that is not the last one ends with a cursor: the generation of its snapshot,
the fingerprint of its filters and the position of the next record.  The parser of the
next request reads back exactly what was printed.
-/

namespace X64dbgMcp.Plugin

open Text

/-- `std::hex` with `std::nouppercase`. -/
def hexText (value : Nat) : String :=
  String.ofList (Nat.toDigits 16 value)

/-- The cursor of the next page of a listing. -/
def discoveryCursor (request : Request) (generation index : Nat) : String :=
  "v2:" ++ toString generation ++ ":" ++ hexText (request.cursorFingerprint.getD 0) ++ ":" ++
    toString index

/-- The cursor of the next page of patches. -/
def patchCursor (request : Request) (generation snapshotFingerprint index : Nat) : String :=
  "v3:" ++ toString generation ++ ":" ++ hexText (request.cursorFingerprint.getD 0) ++ ":" ++
    hexText snapshotFingerprint ++ ":" ++ toString index

/-- The request that carries the cursor of a page and asks for the same otherwise, as the
parser makes it. -/
def followUp (build : Build) (request : Request) (cursor : String) : Option Request :=
  withDiscoveryCursor build request (request.cursorFingerprint.getD 0) (some (.string cursor))

theorem utf8_hexText (value : Nat) : utf8 (hexText value) = hexadecimal value :=
  rfl

theorem utf8_toString (value : Nat) : utf8 (toString value) = decimal value :=
  rfl

theorem splitColon_append {first rest : List UInt8} (free : 0x3a ∉ first) :
    splitColon (first ++ 0x3a :: rest) = some (first, rest) := by
  have inside : ∀ byte ∈ first, (byte != 0x3a) = true := by
    intro byte member
    simp only [bne_iff_ne, ne_eq]
    rintro rfl
    exact free member
  have taken : (first ++ 0x3a :: rest).takeWhile (fun byte => byte != 0x3a) = first := by
    rw [List.takeWhile_append_of_pos inside]
    simp
  have dropped : (first ++ 0x3a :: rest).dropWhile (fun byte => byte != 0x3a) = 0x3a :: rest := by
    rw [List.dropWhile_append_of_pos inside]
    simp
  rw [splitColon, if_pos (by simp), taken, dropped, List.tail_cons]

theorem readField_of_fromCharsAll {base limit value : Nat} {bytes : List UInt8}
    (reads : fromCharsAll base limit bytes = some value) :
    readField base limit bytes = (value, true) := by
  simp only [fromCharsAll] at reads
  split at reads
  · rename_i number whole
    rw [Option.some.injEq] at reads
    rw [readField, whole, reads]
    rfl
  · cases reads

@[simp]
theorem readField_decimal {limit value : Nat} (fits : value < limit) :
    readField 10 limit (decimal value) = (value, true) := by
  apply readField_of_fromCharsAll
  rw [fromCharsAll_decimal, if_pos fits]

@[simp]
theorem readField_hexadecimal {limit value : Nat} (fits : value < limit) :
    readField 16 limit (hexadecimal value) = (value, true) := by
  apply readField_of_fromCharsAll
  have digits := fun byte member =>
    isDigit_of_isLowerHex (@isLowerHex_of_mem_hexadecimal value byte member)
  have reads := @fromCharsAll_of_digits 16 limit _ (hexadecimal_ne_nil value) digits
  rw [ofDigits_hexadecimal] at reads
  exact reads fits

theorem utf8_discoveryCursor (request : Request) (generation index : Nat) :
    utf8 (discoveryCursor request generation index) =
      utf8 "v2:" ++ (decimal generation ++ 0x3a ::
        (hexadecimal (request.cursorFingerprint.getD 0) ++ 0x3a :: decimal index)) := by
  have colon : utf8 ":" = [0x3a] := rfl
  simp only [discoveryCursor, utf8_append, utf8_toString, utf8_hexText, colon, List.append_assoc,
    List.cons_append, List.nil_append]

theorem utf8_patchCursor (request : Request) (generation snapshotFingerprint index : Nat) :
    utf8 (patchCursor request generation snapshotFingerprint index) =
      utf8 "v3:" ++ (decimal generation ++ 0x3a ::
        (hexadecimal (request.cursorFingerprint.getD 0) ++ 0x3a ::
          (hexadecimal snapshotFingerprint ++ 0x3a :: decimal index))) := by
  have colon : utf8 ":" = [0x3a] := rfl
  simp only [patchCursor, utf8_append, utf8_toString, utf8_hexText, colon, List.append_assoc,
    List.cons_append, List.nil_append]

section RoundTrip

variable {build : Build} {request : Request} {generation snapshotFingerprint index : Nat}
  (narrow : build.limit ≤ 2 ^ 64) (generationFits : generation < 2 ^ 64)
  (fingerprintFits : request.cursorFingerprint.getD 0 < 2 ^ 64) (indexFits : index < build.limit)

include narrow generationFits fingerprintFits indexFits

/-- Reading back a printed cursor. -/
theorem parseDiscoveryCursor_discoveryCursor :
    parseDiscoveryCursor build (utf8 (discoveryCursor request generation index)) =
      { accepted := true, generation := generation,
        fingerprint := request.cursorFingerprint.getD 0, index := index } := by
  have first := length_decimal_le generationFits
  have second : (hexadecimal (request.cursorFingerprint.getD 0)).length ≤ 16 :=
    length_hexadecimal_le (by decide) fingerprintFits
  have third := length_decimal_le (lt_of_lt_of_le indexFits narrow)
  have mark : (utf8 "v2:").length = 3 := rfl
  rw [utf8_discoveryCursor, parseDiscoveryCursor, if_neg]
  · rw [List.drop_left' mark, splitColon_append (colon_notMem_decimal generation)]
    simp only [splitColon_append (colon_notMem_hexadecimal _), readField_decimal generationFits,
      readField_hexadecimal fingerprintFits, readField_decimal indexFits, Bool.and_self]
  · rw [not_or, not_not, Nat.not_lt, List.take_left' mark]
    simp only [List.length_append, List.length_cons, mark]
    exact ⟨trivial, by omega⟩

/-- A follow-up request differs in its position only, and its cursor is the right one. -/
theorem followUp_discoveryCursor :
    followUp build request (discoveryCursor request generation index) =
      some { request with cursorFingerprint := some (request.cursorFingerprint.getD 0)
                          cursorGeneration := some generation
                          discoveryCursorInvalid := false
                          cursorIndex := index } := by
  simp only [followUp, withDiscoveryCursor, unlessMissing, Option.isNone_some, Bool.false_eq_true,
    if_false, textOf, Option.bind_some, Json.asStr, Option.bind_eq_bind,
    parseDiscoveryCursor_discoveryCursor narrow generationFits fingerprintFits indexFits, if_true,
    Option.pure_def, ne_eq, not_true, decide_false]

variable (snapshotFits : snapshotFingerprint < 2 ^ 64)

include snapshotFits

theorem parsePatchCursor_patchCursor :
    parsePatchCursor build (utf8 (patchCursor request generation snapshotFingerprint index)) =
      { accepted := true, generation := generation,
        fingerprint := request.cursorFingerprint.getD 0,
        snapshotFingerprint := snapshotFingerprint, index := index } := by
  have first := length_decimal_le generationFits
  have second : (hexadecimal (request.cursorFingerprint.getD 0)).length ≤ 16 :=
    length_hexadecimal_le (by decide) fingerprintFits
  have third : (hexadecimal snapshotFingerprint).length ≤ 16 :=
    length_hexadecimal_le (by decide) snapshotFits
  have fourth := length_decimal_le (lt_of_lt_of_le indexFits narrow)
  have mark : (utf8 "v3:").length = 3 := rfl
  rw [utf8_patchCursor, parsePatchCursor, if_neg]
  · rw [List.drop_left' mark, splitColon_append (colon_notMem_decimal generation)]
    simp only [splitColon_append (colon_notMem_hexadecimal _), readField_decimal generationFits,
      readField_hexadecimal fingerprintFits, readField_hexadecimal snapshotFits,
      readField_decimal indexFits, Bool.and_self]
  · rw [not_or, not_not, Nat.not_lt, List.take_left' mark]
    simp only [List.length_append, List.length_cons, mark]
    exact ⟨trivial, by omega⟩

end RoundTrip

section Parser

variable {build : Build} {payload : Payload} {request parsed : Request}

/-- The follow-up of a request that had no cursor. -/
theorem followUp_of_none {expected : Nat}
    (reads : withDiscoveryCursor build request expected none = some parsed) (text : String) :
    withDiscoveryCursor build request expected (some (.string text)) =
      followUp build parsed text := by
  cases reads
  simp only [followUp, withDiscoveryCursor, unlessMissing, Option.isNone_some, Bool.false_eq_true,
    if_false, Option.getD_some]

theorem lookup_cons_of_ne {name other : String} (foreign : name ≠ other) (value : Json) :
    List.lookup name ((other, value) :: payload) = payload.lookup name := by
  rw [List.lookup_cons, beq_false_of_ne foreign]

/-- The parser makes the follow-up of a search from the same payload with the cursor. -/
theorem parseMemorySearch_cursor (first : payload.lookup "cursor" = none)
    (reads : parseMemorySearch build payload request = some parsed) (text : String) :
    parseMemorySearch build (("cursor", .string text) :: payload) request =
      followUp build parsed text := by
  simp only [parseMemorySearch, first, Option.bind_eq_bind, Option.bind_eq_some_iff,
    require_eq_some] at reads
  rcases reads with ⟨-, size, patternText, patternRead, maskText, maskRead, ranged, scope, pattern,
    patternIs, limit, limitRead, reads⟩
  rw [← followUp_of_none reads]
  have sized : (("cursor", Json.string text) :: payload).length =
      3 + counted (payload.lookup "limit") + counted (some (Json.string text)) := by
    rw [List.length_cons, size]
    rfl
  simp only [parseMemorySearch, List.lookup_cons_self, Option.bind_eq_bind, require, if_pos sized,
    lookup_cons_of_ne (show "pattern_hex" ≠ "cursor" by decide),
    lookup_cons_of_ne (show "mask" ≠ "cursor" by decide),
    lookup_cons_of_ne (show "limit" ≠ "cursor" by decide),
    lookup_cons_of_ne (show "scope" ≠ "cursor" by decide), Option.bind_some, patternRead, maskRead,
    scope, patternIs, limitRead]

theorem require_of {condition : Prop} [Decidable condition] (holds : condition) :
    require condition = some () :=
  if_pos holds

/-- A page that sets its own limit and goes on from a cursor. -/
def pagedFields (limit : UInt64) (text : String) : Payload :=
  [("cursor", .string text), ("limit", .number (.posInt limit))]

theorem integerOr_posInt {limit : UInt64} {low high default : Nat} (above : low ≤ limit.toNat)
    (below : limit.toNat ≤ high) :
    integerOr (some (.number (.posInt limit))) low high default = some limit.toNat := by
  simp only [integerOr, Option.isNone_some, Bool.false_eq_true, if_false, integerIn, integerOf]
  rw [if_pos (by omega), Int.toNat_natCast]

/-- The parser makes the next request of a discovery from the payload of the first one,
with the cursor and with any limit. -/
theorem parseDiscovery_paged {references strings : Bool} {maxQueryBytes : Nat}
    (first : payload.lookup "cursor" = none) (unlimited : payload.lookup "limit" = none)
    (reads : parseDiscovery build payload request references strings maxQueryBytes = some parsed)
    {limit : UInt64} (positive : 1 ≤ limit.toNat) (small : limit.toNat ≤ 256) (text : String) :
    parseDiscovery build (pagedFields limit text ++ payload) request references strings
        maxQueryBytes =
      followUp build { parsed with pageLimit := limit.toNat } text := by
  have sized : payload.length = 1 + counted (payload.lookup "query") +
        counted (payload.lookup "encoding") + counted (payload.lookup "min_length") +
        counted (payload.lookup "context_bytes") + counted none + counted none →
      (pagedFields limit text ++ payload).length =
        1 + counted (payload.lookup "query") + counted (payload.lookup "encoding") +
          counted (payload.lookup "min_length") + counted (payload.lookup "context_bytes") +
          counted (some (Json.number (.posInt limit))) + counted (some (Json.string text)) := by
    intro size
    rw [List.length_append, size]
    simp only [pagedFields, counted, Option.isSome_none, Option.isSome_some, List.length_cons,
      List.length_nil, Bool.toNat_false, Bool.toNat_true]
    omega
  simp only [pagedFields, List.cons_append, List.nil_append] at sized
  -- the two kinds of target are read in two branches
  cases references
  all_goals
    simp only [parseDiscovery, first, unlimited, Option.bind_eq_bind, Option.bind_eq_some_iff,
      require_eq_some, Bool.false_eq_true, if_false, if_true, Option.pure_def,
      Option.some.injEq] at reads
    rcases reads with ⟨-, size, named, namedIs, target, targetIs, -, shape, query, queryIs,
      encoding, encodingIs, minimum, minimumIs, context, contextIs, pageLimit, -, reads⟩
    cases reads
    cases targetIs
    simp only [parseDiscovery, pagedFields, List.cons_append, List.nil_append,
      List.lookup_cons_self,
      lookup_cons_of_ne (show "module" ≠ "cursor" by decide),
      lookup_cons_of_ne (show "module" ≠ "limit" by decide),
      lookup_cons_of_ne (show "query" ≠ "cursor" by decide),
      lookup_cons_of_ne (show "query" ≠ "limit" by decide),
      lookup_cons_of_ne (show "encoding" ≠ "cursor" by decide),
      lookup_cons_of_ne (show "encoding" ≠ "limit" by decide),
      lookup_cons_of_ne (show "min_length" ≠ "cursor" by decide),
      lookup_cons_of_ne (show "min_length" ≠ "limit" by decide),
      lookup_cons_of_ne (show "context_bytes" ≠ "cursor" by decide),
      lookup_cons_of_ne (show "context_bytes" ≠ "limit" by decide),
      lookup_cons_of_ne (show "address" ≠ "cursor" by decide),
      lookup_cons_of_ne (show "address" ≠ "limit" by decide),
      lookup_cons_of_ne (show "limit" ≠ "cursor" by decide),
      integerOr_posInt positive small, Option.bind_eq_bind, require_of (sized size),
      require_of shape, Option.bind_some, namedIs, queryIs, encodingIs, minimumIs, contextIs,
      Bool.false_eq_true, if_false, if_true, Option.pure_def]
    rfl

theorem parseMemoryMap_paged (first : payload.lookup "cursor" = none)
    (unlimited : payload.lookup "limit" = none)
    (reads : parseMemoryMap build payload request = some parsed) {limit : UInt64}
    (positive : 1 ≤ limit.toNat) (small : limit.toNat ≤ 256) (text : String) :
    parseMemoryMap build (pagedFields limit text ++ payload) request =
      followUp build { parsed with pageLimit := limit.toNat } text := by
  simp only [parseMemoryMap, first, unlimited, Option.bind_eq_bind, Option.bind_eq_some_iff,
    require_eq_some] at reads
  rcases reads with ⟨-, size, module, moduleIs, committed, committedIs, executable, executableIs,
    compact, compactIs, pageLimit, -, reads⟩
  cases reads
  have sized : (pagedFields limit text ++ payload).length =
      counted (payload.lookup "module") + counted (payload.lookup "committed_only") +
        counted (payload.lookup "executable_only") + counted (payload.lookup "compact") +
        counted (some (Json.number (.posInt limit))) + counted (some (Json.string text)) := by
    rw [List.length_append, size]
    simp only [pagedFields, counted, Option.isSome_none, Option.isSome_some, List.length_cons,
      List.length_nil, Bool.toNat_false, Bool.toNat_true]
    omega
  simp only [pagedFields, List.cons_append, List.nil_append] at sized
  simp only [parseMemoryMap, pagedFields, List.cons_append, List.nil_append, List.lookup_cons_self,
    lookup_cons_of_ne (show "module" ≠ "cursor" by decide),
    lookup_cons_of_ne (show "module" ≠ "limit" by decide),
    lookup_cons_of_ne (show "committed_only" ≠ "cursor" by decide),
    lookup_cons_of_ne (show "committed_only" ≠ "limit" by decide),
    lookup_cons_of_ne (show "executable_only" ≠ "cursor" by decide),
    lookup_cons_of_ne (show "executable_only" ≠ "limit" by decide),
    lookup_cons_of_ne (show "compact" ≠ "cursor" by decide),
    lookup_cons_of_ne (show "compact" ≠ "limit" by decide),
    lookup_cons_of_ne (show "limit" ≠ "cursor" by decide),
    integerOr_posInt positive small, Option.bind_eq_bind, require_of sized,
    Option.bind_some, moduleIs, committedIs, executableIs, compactIs]
  rfl

end Parser

end X64dbgMcp.Plugin
