import X64dbgMcp.Text.Numeral

/-!
# Cursors and fingerprints of the plugin

Every cursor is a version mark followed by fields between colons.  The parsers
write their output parameters field by field, so what they return next to their
verdict is set even where the verdict is negative.
-/

namespace X64dbgMcp.Plugin

open Text

/-- What the plugin takes from its build: the width of a pointer and the debugger's
bound on a condition. -/
structure Build where
  pointerBytes : Nat
  maxConditionalExprSize : Nat

/-- One more than the largest `duint` or `size_t`. -/
def Build.limit (build : Build) : Nat :=
  2 ^ (8 * build.pointerBytes)

/-- `IsUuid`, with the position of the next character. -/
def isUuidFrom (index : Nat) : List UInt8 → Bool
  | [] => true
  | byte :: rest =>
      (if index = 8 ∨ index = 13 ∨ index = 18 ∨ index = 23 then byte == 0x2d
        else isLowerHex byte) && isUuidFrom (index + 1) rest

/-- A text with the form of a UUID. -/
def isUuid (value : List UInt8) : Bool :=
  value.length == 36 && isUuidFrom 0 value

/-- The bytes before the next colon and those after it. -/
def splitColon (bytes : List UInt8) : Option (List UInt8 × List UInt8) :=
  if bytes.contains 0x3a then
    some (bytes.takeWhile fun byte => byte != 0x3a, (bytes.dropWhile fun byte => byte != 0x3a).tail)
  else none

/-- One numeric field: the output parameter, and whether the whole field was read. -/
def readField (base limit : Nat) (bytes : List UInt8) : Nat × Bool :=
  match fromChars base limit bytes with
  | some (value, rest) => (value, rest.isEmpty)
  | none => (0, false)

/-- What a cursor says. -/
structure CursorFields where
  accepted : Bool := false
  generation : Nat := 0
  traceId : List UInt8 := []
  fingerprint : Nat := 0
  snapshotFingerprint : Nat := 0
  index : Nat := 0
  deriving DecidableEq

/-- Read the cursor of a page. -/
def parseCursor (build : Build) (cursor : List UInt8) : CursorFields :=
  if cursor.take 3 ≠ utf8 "v1:" ∨ 64 < cursor.length then {}
  else
    match splitColon (cursor.drop 3) with
    | none => {}
    | some (first, last) =>
        let generation := readField 10 (2 ^ 64) first
        let index := readField 10 build.limit last
        { accepted := generation.2 && index.2
          generation := generation.1
          index := index.1 }

/-- Read the cursor of a listing. -/
def parseDiscoveryCursor (build : Build) (cursor : List UInt8) : CursorFields :=
  if cursor.take 3 ≠ utf8 "v2:" ∨ 128 < cursor.length then {}
  else
    match splitColon (cursor.drop 3) with
    | none => {}
    | some (first, rest) =>
        match splitColon rest with
        | none => {}
        | some (second, last) =>
            let generation := readField 10 (2 ^ 64) first
            let fingerprint := readField 16 (2 ^ 64) second
            let index := readField 10 build.limit last
            { accepted := generation.2 && fingerprint.2 && index.2
              generation := generation.1
              fingerprint := fingerprint.1
              index := index.1 }

/-- Read the cursor of a list of patches. -/
def parsePatchCursor (build : Build) (cursor : List UInt8) : CursorFields :=
  if cursor.take 3 ≠ utf8 "v3:" ∨ 160 < cursor.length then {}
  else
    match splitColon (cursor.drop 3) with
    | none => {}
    | some (first, rest) =>
        match splitColon rest with
        | none => {}
        | some (second, rest) =>
            match splitColon rest with
            | none => {}
            | some (third, last) =>
                let generation := readField 10 (2 ^ 64) first
                let filter := readField 16 (2 ^ 64) second
                let snapshot := readField 16 (2 ^ 64) third
                let index := readField 10 build.limit last
                { accepted := generation.2 && filter.2 && snapshot.2 && index.2
                  generation := generation.1
                  fingerprint := filter.1
                  snapshotFingerprint := snapshot.1
                  index := index.1 }

/-- Read the cursor of a trace. -/
def parseTraceCursor (build : Build) (cursor : List UInt8) : CursorFields :=
  if cursor.take 3 ≠ utf8 "v4:" ∨ 160 < cursor.length then {}
  else
    match splitColon (cursor.drop 3) with
    | none => {}
    | some (first, rest) =>
        match splitColon rest with
        | none => {}
        | some (second, last) =>
            let fingerprint := readField 16 (2 ^ 64) second
            let index := readField 10 build.limit last
            { accepted := isUuid first && fingerprint.2 && index.2
              traceId := first
              fingerprint := fingerprint.1
              index := index.1 }

/-- One byte of the 64-bit FNV-1a hash. -/
def hashByte (hash : UInt64) (byte : UInt8) : UInt64 :=
  (hash ^^^ byte.toUInt64) * 1099511628211

/-- The bytes that are hashed: every part is closed by a byte that is not UTF-8. -/
def fingerprintInput (parts : List (List UInt8)) : List UInt8 :=
  parts.flatMap fun part => part ++ [0xff]

/-- The fingerprint of what a listing was asked for. -/
def discoveryFingerprint (method module query encoding : List UInt8)
    (minLength contextBytes : Nat) : UInt64 :=
  (fingerprintInput
    [method, module, query, encoding, decimal minLength, decimal contextBytes]).foldl hashByte
    14695981039346656037

end X64dbgMcp.Plugin
