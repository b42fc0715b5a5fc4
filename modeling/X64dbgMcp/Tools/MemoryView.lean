import X64dbgMcp.Text.HexBytes
import X64dbgMcp.Text.Utf16
import X64dbgMcp.Tools.Validated

/-!
# Memory views

A successful read of memory can be presented in one of six formats.  The view is added
beside the native fields, and the bytes can be told from it as far as the format goes.
-/

namespace X64dbgMcp.Tools.MemoryView

open Text Ipc Collection
open Transition (bind_eq_ok)

/-! ## Arguments -/

/-- The `memory.read` branch of `validate_arguments`. -/
def validateMemoryRead (object : Object) : Checked Unit := do
  exactKeys object ["address", "length"] ["format", "byte_order"]
  validateAddressRef object "address"
  integer object "length" 1 65536
  whenPresent object "format"
    (oneOf object "format" ["bytes", "word", "dword", "qword", "str", "wstr"])
  let format := (object.lookup "format").bind Json.asStr
  whenPresent object "byte_order" do
    ensure (format == some "word" || format == some "dword" || format == some "qword")
      (invalid "byte_order" "requires a numeric format")
    oneOf object "byte_order" ["little", "big"]
  let width :=
    if format = some "word" ∨ format = some "wstr" then 2
    else if format = some "dword" then 4
    else if format = some "qword" then 8
    else 1
  ensure (((object.lookup "length").bind Json.asU64).any fun length => length.toNat % width == 0)
    (invalid "length" "must be a multiple of the format width in bytes")

/-- `validate_arguments` of `memory.read`. -/
def validateArguments (arguments : Json) : Checked Unit := do
  let object ← okOr arguments.asObject (invalid "arguments" "must be an object")
  validateMemoryRead object

/-! ## Views -/

/-- Where the first zero unit begins. -/
def nulAt (width : Nat) (bytes : List UInt8) : Option Nat :=
  ((chunksExact width (bytes.length / width) bytes).findIdx? fun chunk =>
    chunk.all fun byte => byte == 0).map fun index => index * width

/-- A natural number as JSON. -/
def number (value : Nat) : Json :=
  .number (.posInt (UInt64.ofNat value))

/-- The text of the bytes, or where they stop being text. -/
def decodeText (format : String) (bytes : List UInt8) : Except Nat String :=
  if format = "str" then
    match (fromUtf8 bytes).stop with
    | none => .ok ((String.fromUTF8? bytes.toByteArray).getD "")
    | some validUpTo => .error validUpTo
  else (decodeUtf16 0 [] (leUnits bytes)).map String.ofList

/-- The bytes, two digits each. -/
def bytesView (format : String) (bytes : List UInt8) : Json :=
  .object [("format", .string format), ("text", .string (spaced bytes))]

/-- The bytes as numbers of a width, with what is left over. -/
def numericView (arguments : Json) (format : String) (bytes : List UInt8) : Json :=
  let width := if format = "word" then 2 else if format = "dword" then 4 else 8
  let byteOrder := ((arguments.get "byte_order").bind Json.asStr).getD "little"
  let values := (chunksExact width (bytes.length / width) bytes).map fun chunk =>
    paddedHex (width * 2) (groupNumber (byteOrder == "big") chunk)
  .object
    [("format", .string format), ("byte_order", .string byteOrder),
      ("values", .array (values.map Json.string))]

/-- The bytes up to a zero as text. -/
def textView (format : String) (bytes : List UInt8) : Json :=
  let width := if format = "str" then 1 else 2
  let encoding := if format = "str" then "utf-8" else "utf-16le"
  let nul := nulAt width bytes
  let textBytes := nul.getD bytes.length
  match decodeText format (bytes.take textBytes) with
  | .ok text =>
      .object
        [("format", .string format), ("encoding", .string encoding), ("status", .string "ok"),
          ("text", .string text), ("terminated", .bool nul.isSome),
          ("text_bytes", number textBytes),
          ("bytes_consumed", number (textBytes + if nul.isSome then width else 0))]
  | .error offset =>
      .object
        [("format", .string format), ("encoding", .string encoding),
          ("status", .string "decode_error"),
          ("error",
            .object
              [("kind", .string (if format = "str" then "invalid_utf8" else "invalid_utf16")),
                ("byte_offset", number offset)])]

/-- The view that a format asks for. -/
def viewOf (arguments : Json) (format : String) (bytes : List UInt8) : Option Json :=
  if format = "bytes" then some (bytesView format bytes)
  else if format = "word" ∨ format = "dword" ∨ format = "qword" then
    some (numericView arguments format bytes)
  else if format = "str" ∨ format = "wstr" then some (textView format bytes)
  else none

/-- The arguments of the view are refused. -/
def invalidArgument (error : ValidationError) : ToolError where
  code := .invalidArgument
  message := error.message
  recoverable := true
  safeToRetry := true
  details := .object [("field", .string error.field)]

/-- The plugin's answer is none to `memory.read`. -/
def malformed : ToolError where
  code := .internal
  message := "Malformed native memory.read payload"
  recoverable := false
  safeToRetry := true
  details := .object [("tool", .string "memory.read")]

/-- `ok_or_else(malformed)` -/
def orMalformed {α : Type} : Option α → Except ToolError α
  | some value => .ok value
  | none => .error malformed

/-- `Map::insert` -/
def insert (fields : Object) (key : String) (value : Json) : Object :=
  without fields key ++ [(key, value)]

/-- The payload stays as it is. -/
def isRaw (arguments payload : Json) : Bool :=
  (payload.get "ok").bind Json.asBool == some false || (arguments.get "format").isNone

/-- `apply`: the answer of the plugin in the format that was asked for. -/
def apply (arguments payload : Json) : Except ToolError Json :=
  if isRaw arguments payload then .ok payload
  else
    match validateArguments arguments with
    | .error error => .error (invalidArgument error)
    | .ok () => do
        let data ← orMalformed ((payload.get "data_hex").bind Json.asStr)
        let length ← orMalformed (arguments.index "length").asU64
        if 131072 < (utf8 data).length ∨ (utf8 data).length ≠ length.toNat * 2 ∨
            (payload.get "bytes_read").bind Json.asU64 ≠ some length then .error malformed
        else do
          let bytes ← orMalformed (decodeHex (utf8 data))
          let format ← orMalformed (arguments.index "format").asStr
          let view ← orMalformed (viewOf arguments format bytes)
          let fields ← orMalformed payload.asObject
          .ok (.object (insert fields "view" view))

/-! ## What a view tells -/

/-- A text ends before the first zero unit, or with the bytes. -/
structure TextEnd (width : Nat) (bytes : List UInt8) (textBytes : Nat) (terminated : Bool) :
    Prop where
  aligned : width ∣ textBytes
  within : textBytes ≤ bytes.length
  clear : ∀ index, index * width < textBytes →
    ∃ byte ∈ (bytes.drop (index * width)).take width, byte ≠ 0
  nul : terminated = true → textBytes + width ≤ bytes.length ∧
    ∀ byte ∈ (bytes.drop textBytes).take width, byte = 0
  whole : terminated = false → textBytes = bytes.length

/-- A format of numbers, with their width. -/
inductive NumericFormat : String → Nat → Prop where
  | word : NumericFormat "word" 2
  | dword : NumericFormat "dword" 4
  | qword : NumericFormat "qword" 8

/-- The width of a unit and the bytes of a character. -/
inductive TextFormat : String → Nat → (Char → List UInt8) → Prop where
  | str : TextFormat "str" 1 String.utf8EncodeChar
  | wstr : TextFormat "wstr" 2 utf16Le

/-- What can be told of the bytes from a view in each of the formats. -/
inductive Presents (byteOrder : String) (bytes : List UInt8) : String → Json → Prop where
  | bytes {view : Json} {text : String} (shown : view.get "text" = some (.string text))
      (recovered : decodeHex ((utf8 text).filter (· != 0x20)) = some bytes) :
      Presents byteOrder bytes "bytes" view
  | numeric {format : String} {width : Nat} {view : Json} {values : List String}
      (kind : NumericFormat format width)
      (ordered : view.get "byte_order" = some (.string byteOrder))
      (shown : view.get "values" = some (.array (values.map Json.string)))
      (recovered : (values.mapM (valueBytes (byteOrder == "big") width)).map List.flatten =
        some bytes) :
      Presents byteOrder bytes format view
  | text {format : String} {width textBytes : Nat} {encode : Char → List UInt8}
      {terminated : Bool} {view : Json} {text : String} (kind : TextFormat format width encode)
      (ends : TextEnd width bytes textBytes terminated)
      (status : view.get "status" = some (.string "ok"))
      (shown : view.get "text" = some (.string text))
      (stopped : view.get "terminated" = some (.bool terminated))
      (counted : view.get "text_bytes" = some (number textBytes))
      (consumed : view.get "bytes_consumed" =
        some (number (textBytes + if terminated then width else 0)))
      (recovered : text.toList.flatMap encode = bytes.take textBytes) :
      Presents byteOrder bytes format view
  | undecoded {format : String} {width textBytes offset : Nat} {encode : Char → List UInt8}
      {terminated : Bool} {view error : Json} (kind : TextFormat format width encode)
      (ends : TextEnd width bytes textBytes terminated)
      (status : view.get "status" = some (.string "decode_error"))
      (reported : view.get "error" = some error)
      (stopped : error.get "byte_offset" = some (number offset))
      (longest : LongestEncoded encode (bytes.take textBytes) offset) :
      Presents byteOrder bytes format view

section Ends

variable {width : Nat} {bytes : List UInt8}

theorem textEnd_of_none (aligned : width ∣ bytes.length) (positive : 0 < width)
    (absent : nulAt width bytes = none) : TextEnd width bytes bytes.length false := by
  rw [nulAt, Option.map_eq_none_iff, List.findIdx?_eq_none_iff] at absent
  refine
    { aligned := aligned
      within := Nat.le_refl _
      clear := ?_
      nul := fun impossible => by cases impossible
      whole := fun _ => rfl }
  intro index before
  have below : index < bytes.length / width := by
    rw [Nat.lt_div_iff_mul_lt_of_dvd (Nat.ne_of_gt positive) aligned]
    exact before
  have member := List.mem_of_getElem? (@getElem?_chunksExact width _ _ below bytes)
  have nonzero := absent _ member
  rw [List.all_eq_false] at nonzero
  rcases nonzero with ⟨byte, inChunk, differs⟩
  exact ⟨byte, inChunk, by simpa using differs⟩

theorem textEnd_of_some {textBytes : Nat} (positive : 0 < width)
    (found : nulAt width bytes = some textBytes) : TextEnd width bytes textBytes true := by
  rw [nulAt, Option.map_eq_some_iff] at found
  rcases found with ⟨index, found, rfl⟩
  rw [List.findIdx?_eq_some_iff_getElem] at found
  rcases found with ⟨below, zero, earlier⟩
  have chunkAt (other : Nat) (inside : other < (chunksExact width (bytes.length / width)
      bytes).length) :
      (chunksExact width (bytes.length / width) bytes)[other] =
        (bytes.drop (other * width)).take width := by
    have counted := inside
    rw [length_chunksExact] at counted
    have entry := @getElem?_chunksExact width _ _ counted bytes
    rw [List.getElem?_eq_getElem inside, Option.some.injEq] at entry
    exact entry
  have inside := below
  rw [length_chunksExact] at inside
  have room : (index + 1) * width ≤ bytes.length :=
    Nat.le_trans (Nat.mul_le_mul_right width inside) (Nat.div_mul_le_self _ _)
  rw [Nat.succ_mul] at room
  rw [chunkAt index below, List.all_eq_true] at zero
  refine
    { aligned := ⟨index, Nat.mul_comm _ _⟩
      within := by omega
      clear := ?_
      nul := fun _ => ⟨room, ?_⟩
      whole := fun impossible => by cases impossible }
  · intro other before
    have smaller : other < index := Nat.lt_of_mul_lt_mul_right before
    have nonzero := earlier other smaller
    rw [chunkAt other (Nat.lt_trans smaller below), Bool.not_eq_true, List.all_eq_false] at nonzero
    rcases nonzero with ⟨byte, inChunk, differs⟩
    exact ⟨byte, inChunk, by simpa using differs⟩
  · intro byte inChunk
    simpa using zero byte inChunk

end Ends

section Views

variable {bytes : List UInt8} {format : String} {arguments payload : Json}

theorem presents_bytes (byteOrder : String) :
    Presents byteOrder bytes "bytes" (bytesView "bytes" bytes) :=
  .bytes rfl (decodeHex_spaced bytes)

theorem presents_numeric {width : Nat} (kind : NumericFormat format width)
    (aligned : width ∣ bytes.length) :
    Presents (((arguments.get "byte_order").bind Json.asStr).getD "little") bytes format
      (numericView arguments format bytes) := by
  have whole : bytes.length = bytes.length / width * width := (Nat.div_mul_cancel aligned).symm
  cases kind with
  | word => exact .numeric .word rfl rfl (mapM_valueBytes whole (by decide))
  | dword => exact .numeric .dword rfl rfl (mapM_valueBytes whole (by decide))
  | qword => exact .numeric .qword rfl rfl (mapM_valueBytes whole (by decide))

/-- Decoding gives the text of all the bytes, or the longest beginning that is text. -/
theorem decodeText_spec {width : Nat} {encode : Char → List UInt8}
    (kind : TextFormat format width encode) (aligned : width ∣ bytes.length) :
    (∃ text, decodeText format bytes = .ok text ∧ text.toList.flatMap encode = bytes) ∨
      ∃ offset, decodeText format bytes = .error offset ∧ LongestEncoded encode bytes offset := by
  cases kind with
  | str =>
      simp only [decodeText, if_true]
      rcases fromUtf8_spec bytes with ⟨valid, characters, rfl⟩ | ⟨offset, stops, longest⟩
      · refine .inl ⟨String.ofList characters, ?_, by rw [String.toList_ofList]⟩
        have back := fromUTF8_utf8 (String.ofList characters)
        rw [utf8, String.toList_ofList] at back
        rw [valid]
        simp only [back, Option.getD_some]
      · rw [stops]
        exact .inr ⟨offset, rfl, longest⟩
  | wstr =>
      have even : bytes.length % 2 = 0 := Nat.mod_eq_zero_of_dvd aligned
      rw [decodeText, if_neg (by decide)]
      rcases decodeUtf16_bytes even with ⟨characters, decoded, whole⟩ | ⟨offset, stops, longest⟩
      · refine .inl ⟨String.ofList characters, by rw [decoded]; rfl, ?_⟩
        rw [String.toList_ofList, ← whole]
      · exact .inr ⟨offset, by rw [stops]; rfl, longest⟩

theorem presents_text {width : Nat} {encode : Char → List UInt8}
    (kind : TextFormat format width encode) (aligned : width ∣ bytes.length)
    (byteOrder : String) : Presents byteOrder bytes format (textView format bytes) := by
  have positive : 0 < width := by cases kind <;> decide
  have widthIs : (if format = "str" then 1 else 2) = width := by cases kind <;> rfl
  have ends : TextEnd width bytes ((nulAt width bytes).getD bytes.length)
      (nulAt width bytes).isSome := by
    rcases found : nulAt width bytes with _ | textBytes
    · exact textEnd_of_none aligned positive found
    · exact textEnd_of_some positive found
  simp only [textView, widthIs]
  generalize (nulAt width bytes).getD bytes.length = textBytes at *
  generalize (nulAt width bytes).isSome = terminated at *
  have size : (bytes.take textBytes).length = textBytes := List.length_take_of_le ends.within
  have alignedText : width ∣ (bytes.take textBytes).length := by
    rw [size]
    exact ends.aligned
  rcases decodeText_spec kind alignedText with ⟨text, decoded, recovered⟩ |
    ⟨offset, stops, longest⟩
  · rw [decoded]
    exact .text kind ends rfl rfl rfl rfl rfl recovered
  · rw [stops]
    exact .undecoded kind ends rfl rfl rfl longest

/-- The length of accepted arguments is a multiple of the width of a unit. -/
theorem format_of_accepted (accepted : validateArguments arguments = .ok ()) {format : String}
    (formatted : arguments.get "format" = some (.string format)) {length : UInt64}
    (sized : (arguments.index "length").asU64 = some length) :
    length.toNat ≤ 65536 ∧
      (format = "bytes" ∨ (∃ width, NumericFormat format width ∧ width ∣ length.toNat) ∨
        ∃ width encode, TextFormat format width encode ∧ width ∣ length.toNat) := by
  rw [validateArguments, bind_eq_ok] at accepted
  rcases accepted with ⟨object, isObject, accepted⟩
  rw [okOr_eq_ok, asObject_eq_some] at isObject
  subst isObject
  simp only [validateMemoryRead, bind_eq_ok, integer_eq_ok, whenPresent_eq_ok,
    ensure_eq_ok] at accepted
  rcases accepted with ⟨_, -, _, -, _, ⟨number, isNumber, -, most⟩, _, known, _, -, multiple⟩
  rw [Json.get_object] at formatted
  have same : number = length := by
    have indexed : (Json.object object).index "length" = .number (.posInt number) := by
      rw [Json.index, Json.get_object, isNumber]
      rfl
    rw [indexed] at sized
    exact Option.some.inj sized
  subst same
  rcases oneOf_eq_ok (known (by rw [formatted]; rfl)) with ⟨text, isText, listed, -⟩
  rw [formatted, Option.some.injEq, Json.string.injEq] at isText
  subst isText
  refine ⟨most, ?_⟩
  simp only [formatted, isNumber, Option.bind_some, Json.asStr, Json.asU64, Option.any_some,
    Option.some.injEq, beq_iff_eq] at multiple
  simp only [List.mem_cons, List.not_mem_nil, or_false] at listed
  rcases listed with rfl | rfl | rfl | rfl | rfl | rfl
  · exact .inl rfl
  · exact .inr (.inl ⟨2, .word, Nat.dvd_of_mod_eq_zero multiple⟩)
  · exact .inr (.inl ⟨4, .dword, Nat.dvd_of_mod_eq_zero multiple⟩)
  · exact .inr (.inl ⟨8, .qword, Nat.dvd_of_mod_eq_zero multiple⟩)
  · exact .inr (.inr ⟨1, _, .str, Nat.dvd_of_mod_eq_zero multiple⟩)
  · exact .inr (.inr ⟨2, _, .wstr, Nat.dvd_of_mod_eq_zero multiple⟩)

theorem orMalformed_eq_ok {α : Type} {value : Option α} {result : α} :
    orMalformed value = .ok result ↔ value = some result := by
  cases value <;> simp [orMalformed]

theorem length_of_decodeHex {data : List UInt8} {bytes : List UInt8}
    (decoded : decodeHex data = some bytes) : data.length = bytes.length * 2 := by
  fun_induction decodeHex data generalizing bytes with
  | case1 =>
      cases decoded
      rfl
  | case2 => cases decoded
  | case3 high low rest ih =>
      simp only [Option.bind_eq_bind, Option.bind_eq_some_iff, Option.some.injEq] at decoded
      rcases decoded with ⟨first, -, second, -, others, read, rfl⟩
      rw [List.length_cons, List.length_cons, List.length_cons, ih read]
      omega

theorem lookup_insert (fields : Object) (key : String) (value : Json) :
    (insert fields key value).lookup key = some value := by
  have absent : (without fields key).lookup key = none := by
    rw [List.lookup_eq_none_iff]
    intro field member
    have differs := of_decide_eq_true (List.mem_filter.mp member).2
    exact bne_iff_ne.mpr (Ne.symm differs)
  rw [insert, List.lookup_append, absent, Option.none_or, List.lookup_cons, beq_self_eq_true]

theorem lookup_insert_of_ne {key other : String} (different : other ≠ key) (fields : Object)
    (value : Json) : (insert fields key value).lookup other = fields.lookup other := by
  have missed : [(key, value)].lookup other = none := by
    rw [List.lookup_cons, beq_false_of_ne different]
    rfl
  rw [insert, List.lookup_append, lookup_without_of_ne different, missed, Option.or_none]

/-- What a successful presentation has gone through. -/
theorem apply_eq_ok {result : Json} (notRaw : isRaw arguments payload = false)
    (applied : apply arguments payload = .ok result) :
    ∃ data bytes format view fields, validateArguments arguments = .ok () ∧
      payload.get "data_hex" = some (.string data) ∧ decodeHex (utf8 data) = some bytes ∧
      (arguments.index "length").asU64 = some (UInt64.ofNat bytes.length) ∧
      bytes.length < 2 ^ 64 ∧
      arguments.get "format" = some (.string format) ∧
      viewOf arguments format bytes = some view ∧ payload = .object fields ∧
      result = .object (insert fields "view" view) := by
  rw [apply, if_neg (by simp [notRaw])] at applied
  rcases accepted : validateArguments arguments with error | ⟨⟩
  · rw [accepted] at applied
    cases applied
  rw [accepted] at applied
  simp only [bind_eq_ok, orMalformed_eq_ok] at applied
  rcases applied with ⟨data, isData, length, isLength, applied⟩
  split_ifs at applied with mismatch
  simp only [bind_eq_ok, orMalformed_eq_ok] at applied
  rcases applied with ⟨bytes, decoded, format, isFormat, view, shown, fields, isObject, done⟩
  cases done
  rcases not_or.mp mismatch with ⟨small, mismatch⟩
  rcases not_or.mp mismatch with ⟨sized, -⟩
  have counted := length_of_decodeHex decoded
  have lengthIs : length.toNat = bytes.length := by omega
  have formatted : arguments.get "format" = some (.string format) := by
    rw [asStr_eq_some, Json.index] at isFormat
    cases found : arguments.get "format" with
    | none =>
        rw [found] at isFormat
        cases isFormat
    | some value =>
        rw [found, Option.getD_some] at isFormat
        rw [isFormat]
  refine ⟨data, bytes, format, view, fields, rfl, ?_, decoded, ?_, ?_, formatted, shown,
    asObject_eq_some.mp isObject, rfl⟩
  · rcases Option.bind_eq_some_iff.mp isData with ⟨value, found, isText⟩
    rw [found, asStr_eq_some.mp isText]
  · rw [← lengthIs, UInt64.ofNat_toNat]
    exact isLength
  · rw [← lengthIs]
    exact length.toNat_lt

/-- A view of an accepted format is what the format promises. -/
theorem presents_viewOf {view : Json} (accepted : validateArguments arguments = .ok ())
    (formatted : arguments.get "format" = some (.string format))
    (sized : (arguments.index "length").asU64 = some (UInt64.ofNat bytes.length))
    (small : bytes.length < 2 ^ 64) (shown : viewOf arguments format bytes = some view) :
    bytes.length ≤ 65536 ∧ view.get "format" = some (.string format) ∧
      Presents (((arguments.get "byte_order").bind Json.asStr).getD "little") bytes format view := by
  rcases format_of_accepted accepted formatted sized with ⟨most, kinds⟩
  rw [UInt64.toNat_ofNat', Nat.mod_eq_of_lt small] at most kinds
  refine ⟨most, ?_⟩
  rcases kinds with rfl | ⟨width, kind, aligned⟩ | ⟨width, encode, kind, aligned⟩
  · cases shown
    exact ⟨rfl, presents_bytes _⟩
  · have presents := @presents_numeric bytes format arguments width kind aligned
    cases kind <;> (cases shown; exact ⟨rfl, presents⟩)
  · have presents := presents_text kind aligned
      (((arguments.get "byte_order").bind Json.asStr).getD "little")
    have named : (textView format bytes).get "format" = some (.string format) := by
      rw [textView]
      split <;> rfl
    cases kind <;> (cases shown; exact ⟨named, presents⟩)

end Views

/-- Views are lossless.  Without a format, and when the read has failed, the payload
stays as it is.  Otherwise a successful presentation adds a view to the other fields, and
the view presents the bytes of the payload in the requested format. -/
theorem views_lossless (arguments payload : Json) :
    ((arguments.get "format" = none ∨ payload.get "ok" = some (.bool false)) →
      apply arguments payload = .ok payload) ∧
    (∀ result, ¬ (arguments.get "format" = none ∨ payload.get "ok" = some (.bool false)) →
      apply arguments payload = .ok result →
      ∃ data bytes format view, payload.get "data_hex" = some (.string data) ∧
        decodeHex (utf8 data) = some bytes ∧ bytes.length ≤ 65536 ∧
        arguments.get "format" = some (.string format) ∧
        result.get "view" = some view ∧ view.get "format" = some (.string format) ∧
        (∀ key, key ≠ "view" → result.get key = payload.get key) ∧
        Presents (((arguments.get "byte_order").bind Json.asStr).getD "little") bytes format
          view) := by
  have raw_iff : isRaw arguments payload = true ↔
      (arguments.get "format" = none ∨ payload.get "ok" = some (.bool false)) := by
    rw [isRaw, Bool.or_eq_true, beq_iff_eq, Option.isNone_iff_eq_none, or_comm]
    refine or_congr_right ?_
    simp [Option.bind_eq_some_iff, asBool_eq_some]
  refine ⟨?_, ?_⟩
  · intro raw
    rw [apply, if_pos (raw_iff.mpr raw)]
  · intro result presented applied
    have notRaw := Bool.eq_false_iff.mpr fun raw => presented (raw_iff.mp raw)
    rcases apply_eq_ok notRaw applied with ⟨data, bytes, format, view, fields, accepted, isData,
      decoded, sized, small, formatted, shown, rfl, rfl⟩
    rcases presents_viewOf accepted formatted sized small shown with ⟨most, named, presents⟩
    refine ⟨data, bytes, format, view, isData, decoded, most, formatted, ?_, named, ?_, presents⟩
    · exact lookup_insert fields "view" view
    · intro key different
      exact lookup_insert_of_ne different fields view

end X64dbgMcp.Tools.MemoryView
