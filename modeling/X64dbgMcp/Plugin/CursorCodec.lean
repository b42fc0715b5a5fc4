import X64dbgMcp.Plugin.DiscoveryCursor
import X64dbgMcp.Text.Utf8Scan
import X64dbgMcp.Trace.Policy

/-!
# The cursors and their parsers

Four kinds of cursors are printed, and each has a parser of its own.  A parser takes
exactly the texts that spell its fields, so it reads back what was printed, and none of
them takes a cursor of another kind.
-/

namespace X64dbgMcp.Plugin

open Text Trace

/-- The cursor of a page of modules, threads or breakpoints. -/
def pageCursor (generation index : Nat) : String :=
  "v1:" ++ toString generation ++ ":" ++ toString index

/-- The cursor of a trace, as `trace.results` prints it. -/
def traceCursor (trace : TracePolicy) (fingerprint index : Nat) : String :=
  "v4:" ++ trace.id ++ ":" ++ hexText fingerprint ++ ":" ++ toString index

/-- The grammars of cursors. -/
inductive CursorKind where
  | page
  | discovery
  | patch
  | trace
  deriving DecidableEq

namespace CursorKind

/-- What a cursor of this kind begins with. -/
def mark : CursorKind → List UInt8
  | page => utf8 "v1:"
  | discovery => utf8 "v2:"
  | patch => utf8 "v3:"
  | trace => utf8 "v4:"

/-- The longest cursor of this kind. -/
def maxLength : CursorKind → Nat
  | page => 64
  | discovery => 128
  | patch => 160
  | trace => 160

/-- Read a cursor of this kind. -/
def parse (build : Build) : CursorKind → List UInt8 → CursorFields
  | page => parseCursor build
  | discovery => parseDiscoveryCursor build
  | patch => parsePatchCursor build
  | trace => parseTraceCursor build

end CursorKind

/-- A cursor that was printed, with what its parser should read. -/
inductive Prints : CursorKind → CursorFields → List UInt8 → Prop
  | page (generation index : Nat) :
      Prints .page { accepted := true, generation := generation, index := index }
        (utf8 (pageCursor generation index))
  | discovery (request : Request) (generation index : Nat) :
      Prints .discovery
        { accepted := true, generation := generation
          fingerprint := request.cursorFingerprint.getD 0, index := index }
        (utf8 (discoveryCursor request generation index))
  | patch (request : Request) (generation snapshotFingerprint index : Nat) :
      Prints .patch
        { accepted := true, generation := generation
          fingerprint := request.cursorFingerprint.getD 0
          snapshotFingerprint := snapshotFingerprint, index := index }
        (utf8 (patchCursor request generation snapshotFingerprint index))
  | trace (trace : TracePolicy) (fingerprint index : Nat) (canonical : isUuid (utf8 trace.id)) :
      Prints .trace
        { accepted := true, traceId := utf8 trace.id, fingerprint := fingerprint, index := index }
        (utf8 (traceCursor trace fingerprint index))

/-- Every number fits its type. -/
structure CursorFields.Fits (build : Build) (fields : CursorFields) : Prop where
  generation : fields.generation < 2 ^ 64
  fingerprint : fields.fingerprint < 2 ^ 64
  snapshotFingerprint : fields.snapshotFingerprint < 2 ^ 64
  index : fields.index < build.limit

/-- The digits of a number and nothing else. -/
structure IsNumeral (base value : Nat) (text : List UInt8) : Prop where
  nonempty : text ≠ []
  digits : ∀ byte ∈ text, isDigit base byte = true
  value : ofDigits base text = value

/-- The mark and the fields of a cursor, and a colon between any two fields. -/
def Spells (fields : CursorFields) (cursor : List UInt8) : CursorKind → Prop
  | .page => ∃ generation index,
      cursor = utf8 "v1:" ++ (generation ++ 0x3a :: index) ∧
      IsNumeral 10 fields.generation generation ∧ IsNumeral 10 fields.index index
  | .discovery => ∃ generation fingerprint index,
      cursor = utf8 "v2:" ++ (generation ++ 0x3a :: (fingerprint ++ 0x3a :: index)) ∧
      IsNumeral 10 fields.generation generation ∧
      IsNumeral 16 fields.fingerprint fingerprint ∧ IsNumeral 10 fields.index index
  | .patch => ∃ generation filter snapshot index,
      cursor =
        utf8 "v3:" ++ (generation ++ 0x3a :: (filter ++ 0x3a :: (snapshot ++ 0x3a :: index))) ∧
      IsNumeral 10 fields.generation generation ∧ IsNumeral 16 fields.fingerprint filter ∧
      IsNumeral 16 fields.snapshotFingerprint snapshot ∧ IsNumeral 10 fields.index index
  | .trace => ∃ fingerprint index,
      cursor = utf8 "v4:" ++ (fields.traceId ++ 0x3a :: (fingerprint ++ 0x3a :: index)) ∧
      isUuid fields.traceId = true ∧ IsNumeral 16 fields.fingerprint fingerprint ∧
      IsNumeral 10 fields.index index

/-! ## Fields -/

theorem splitColon_eq_some {bytes first rest : List UInt8}
    (split : splitColon bytes = some (first, rest)) : bytes = first ++ 0x3a :: rest := by
  rw [splitColon] at split
  split_ifs at split with colon
  cases split
  have whole := List.takeWhile_append_dropWhile (p := fun byte => byte != 0x3a) (l := bytes)
  rcases held : bytes.dropWhile (fun byte => byte != 0x3a) with _ | ⟨byte, rest⟩
  · have free := List.dropWhile_eq_nil_iff.mp held 0x3a (by simpa using colon)
    exact absurd free (by decide)
  · have isColon := List.head?_dropWhile_not (fun byte => byte != 0x3a) bytes
    rw [held] at isColon whole
    simp only [List.head?_cons, bne_eq_false_iff_eq] at isColon
    rw [List.tail_cons]
    exact (isColon ▸ whole).symm

theorem readField_accepted {base limit : Nat} {bytes : List UInt8}
    (accepted : (readField base limit bytes).2 = true) :
    IsNumeral base (readField base limit bytes).1 bytes ∧
      (readField base limit bytes).1 < limit := by
  rcases read : fromChars base limit bytes with _ | ⟨value, rest⟩
  · rw [readField, read] at accepted
    cases accepted
  · have ends : rest = [] := by
      rw [readField, read] at accepted
      exact List.isEmpty_iff.mp accepted
    have whole : fromCharsAll base limit bytes = some value := by
      rw [fromCharsAll, read, ends]
    rcases number_of_fromCharsAll whole with ⟨nonempty, digits, isValue, fits⟩
    rw [readField, read]
    exact ⟨⟨nonempty, digits, isValue⟩, fits⟩

theorem ascii_of_isUuidFrom {index : Nat} {bytes : List UInt8}
    (canonical : isUuidFrom index bytes = true) :
    ∀ byte ∈ bytes, byte < 0x80 ∧ byte ≠ 0x3a := by
  induction bytes generalizing index with
  | nil => exact List.forall_mem_nil _
  | cons byte rest ih =>
      rw [isUuidFrom, Bool.and_eq_true] at canonical
      refine List.forall_mem_cons.mpr ⟨?_, ih canonical.2⟩
      have here := canonical.1
      split_ifs at here
      · rw [beq_iff_eq.mp here]
        decide
      · have value := isLowerHex_eq_true.mp here
        refine ⟨UInt8.lt_iff_toNat_lt.mpr ?_, ?_⟩
        · show byte.toNat < 0x80
          omega
        · rintro rfl
          revert value
          decide

theorem exists_text_of_isUuid {bytes : List UInt8} (canonical : isUuid bytes = true) :
    ∃ text, utf8 text = bytes := by
  rw [isUuid, Bool.and_eq_true] at canonical
  rcases isUtf8_ascii fun byte member => (ascii_of_isUuidFrom canonical.2 byte member).1 with
    ⟨characters, rfl⟩
  exact ⟨String.ofList characters, by rw [utf8, String.toList_ofList]⟩

theorem colon_notMem_of_isUuid {bytes : List UInt8} (canonical : isUuid bytes = true) :
    0x3a ∉ bytes := by
  rw [isUuid, Bool.and_eq_true] at canonical
  exact fun member => (ascii_of_isUuidFrom canonical.2 0x3a member).2 rfl

/-! ## What a parser takes -/

/-- A cursor that spells its fields, all of which could have been printed. -/
structure Taken (build : Build) (kind : CursorKind) (fields : CursorFields)
    (cursor : List UInt8) : Prop where
  marked : cursor.take 3 = kind.mark
  fits : fields.Fits build
  spells : Spells fields cursor kind
  printable : ∃ again, Prints kind fields again

/-- A request whose filters have a fingerprint. -/
def fingerprinted (fingerprint : Nat) : Request where
  requestId := ""
  method := ""
  deadlineUnixMs := 0
  mutation := false
  cursorFingerprint := some fingerprint

variable {build : Build} {kind other : CursorKind} {fields : CursorFields} {cursor : List UInt8}

theorem parseCursor_accepted (accepted : (parseCursor build cursor).accepted = true) :
    Taken build .page (parseCursor build cursor) cursor := by
  rw [parseCursor] at accepted ⊢
  split_ifs at accepted ⊢ with outside
  rw [not_or, not_not] at outside
  rcases split : splitColon (cursor.drop 3) with _ | ⟨first, last⟩
  · rw [split] at accepted
    cases accepted
  simp only [split] at accepted ⊢
  rcases Bool.and_eq_true_iff.mp accepted with ⟨readFirst, readLast⟩
  rcases readField_accepted readFirst with ⟨generation, generationFits⟩
  rcases readField_accepted readLast with ⟨index, indexFits⟩
  have zeroFits := Nat.two_pow_pos 64
  have whole := List.take_append_drop 3 cursor
  rw [outside.1, splitColon_eq_some split] at whole
  rw [accepted]
  exact
    { marked := outside.1
      fits := ⟨generationFits, zeroFits, zeroFits, indexFits⟩
      spells := ⟨first, last, whole.symm, generation, index⟩
      printable := ⟨_, .page _ _⟩ }

theorem parseDiscoveryCursor_accepted
    (accepted : (parseDiscoveryCursor build cursor).accepted = true) :
    Taken build .discovery (parseDiscoveryCursor build cursor) cursor := by
  rw [parseDiscoveryCursor] at accepted ⊢
  split_ifs at accepted ⊢ with outside
  rw [not_or, not_not] at outside
  rcases split : splitColon (cursor.drop 3) with _ | ⟨first, rest⟩
  · rw [split] at accepted
    cases accepted
  rcases splitRest : splitColon rest with _ | ⟨second, last⟩
  · simp only [split, splitRest] at accepted
    cases accepted
  simp only [split, splitRest] at accepted ⊢
  rcases Bool.and_eq_true_iff.mp accepted with ⟨readNumbers, readLast⟩
  rcases Bool.and_eq_true_iff.mp readNumbers with ⟨readFirst, readSecond⟩
  rcases readField_accepted readFirst with ⟨generation, generationFits⟩
  rcases readField_accepted readSecond with ⟨fingerprint, fingerprintFits⟩
  rcases readField_accepted readLast with ⟨index, indexFits⟩
  have whole := List.take_append_drop 3 cursor
  rw [outside.1, splitColon_eq_some split, splitColon_eq_some splitRest] at whole
  rw [accepted]
  exact
    { marked := outside.1
      fits := ⟨generationFits, fingerprintFits, Nat.two_pow_pos 64, indexFits⟩
      spells := ⟨first, second, last, whole.symm, generation, fingerprint, index⟩
      printable := ⟨_, .discovery (fingerprinted _) _ _⟩ }

theorem parsePatchCursor_accepted (accepted : (parsePatchCursor build cursor).accepted = true) :
    Taken build .patch (parsePatchCursor build cursor) cursor := by
  rw [parsePatchCursor] at accepted ⊢
  split_ifs at accepted ⊢ with outside
  rw [not_or, not_not] at outside
  rcases split : splitColon (cursor.drop 3) with _ | ⟨first, rest⟩
  · rw [split] at accepted
    cases accepted
  rcases splitRest : splitColon rest with _ | ⟨second, rest'⟩
  · simp only [split, splitRest] at accepted
    cases accepted
  rcases splitLast : splitColon rest' with _ | ⟨third, last⟩
  · simp only [split, splitRest, splitLast] at accepted
    cases accepted
  simp only [split, splitRest, splitLast] at accepted ⊢
  rcases Bool.and_eq_true_iff.mp accepted with ⟨readNumbers, readLast⟩
  rcases Bool.and_eq_true_iff.mp readNumbers with ⟨readPair, readThird⟩
  rcases Bool.and_eq_true_iff.mp readPair with ⟨readFirst, readSecond⟩
  rcases readField_accepted readFirst with ⟨generation, generationFits⟩
  rcases readField_accepted readSecond with ⟨filter, filterFits⟩
  rcases readField_accepted readThird with ⟨snapshot, snapshotFits⟩
  rcases readField_accepted readLast with ⟨index, indexFits⟩
  have whole := List.take_append_drop 3 cursor
  rw [outside.1, splitColon_eq_some split, splitColon_eq_some splitRest,
    splitColon_eq_some splitLast] at whole
  rw [accepted]
  exact
    { marked := outside.1
      fits := ⟨generationFits, filterFits, snapshotFits, indexFits⟩
      spells := ⟨first, second, third, last, whole.symm, generation, filter, snapshot, index⟩
      printable := ⟨_, .patch (fingerprinted _) _ _ _⟩ }

theorem parseTraceCursor_accepted (accepted : (parseTraceCursor build cursor).accepted = true) :
    Taken build .trace (parseTraceCursor build cursor) cursor := by
  rw [parseTraceCursor] at accepted ⊢
  split_ifs at accepted ⊢ with outside
  rw [not_or, not_not] at outside
  rcases split : splitColon (cursor.drop 3) with _ | ⟨first, rest⟩
  · rw [split] at accepted
    cases accepted
  rcases splitRest : splitColon rest with _ | ⟨second, last⟩
  · simp only [split, splitRest] at accepted
    cases accepted
  simp only [split, splitRest] at accepted ⊢
  rcases Bool.and_eq_true_iff.mp accepted with ⟨readPair, readLast⟩
  rcases Bool.and_eq_true_iff.mp readPair with ⟨canonical, readSecond⟩
  rcases readField_accepted readSecond with ⟨fingerprint, fingerprintFits⟩
  rcases readField_accepted readLast with ⟨index, indexFits⟩
  rcases exists_text_of_isUuid canonical with ⟨text, rfl⟩
  have zeroFits := Nat.two_pow_pos 64
  have whole := List.take_append_drop 3 cursor
  rw [outside.1, splitColon_eq_some split, splitColon_eq_some splitRest] at whole
  rw [accepted]
  exact
    { marked := outside.1
      fits := ⟨zeroFits, fingerprintFits, zeroFits, indexFits⟩
      spells := ⟨second, last, whole.symm, canonical, fingerprint, index⟩
      printable := ⟨_, .trace { id := text } _ _ canonical⟩ }

theorem CursorKind.parse_accepted (accepted : (kind.parse build cursor).accepted = true) :
    Taken build kind (kind.parse build cursor) cursor := by
  cases kind with
  | page => exact parseCursor_accepted accepted
  | discovery => exact parseDiscoveryCursor_accepted accepted
  | patch => exact parsePatchCursor_accepted accepted
  | trace => exact parseTraceCursor_accepted accepted

/-! ## What is printed -/

theorem utf8_pageCursor (generation index : Nat) :
    utf8 (pageCursor generation index) =
      utf8 "v1:" ++ (decimal generation ++ 0x3a :: decimal index) := by
  have colon : utf8 ":" = [0x3a] := rfl
  simp only [pageCursor, utf8_append, utf8_toString, colon, List.append_assoc, List.cons_append,
    List.nil_append]

theorem utf8_traceCursor (trace : TracePolicy) (fingerprint index : Nat) :
    utf8 (traceCursor trace fingerprint index) =
      utf8 "v4:" ++ (utf8 trace.id ++ 0x3a ::
        (hexadecimal fingerprint ++ 0x3a :: decimal index)) := by
  have colon : utf8 ":" = [0x3a] := rfl
  simp only [traceCursor, utf8_append, utf8_toString, utf8_hexText, colon, List.append_assoc,
    List.cons_append, List.nil_append]

theorem Prints.marked (prints : Prints kind fields cursor) : cursor.take 3 = kind.mark := by
  cases prints with
  | page generation index =>
      rw [utf8_pageCursor]
      exact List.take_left' rfl
  | discovery request generation index =>
      rw [utf8_discoveryCursor]
      exact List.take_left' rfl
  | patch request generation snapshotFingerprint index =>
      rw [utf8_patchCursor]
      exact List.take_left' rfl
  | trace trace fingerprint index =>
      rw [utf8_traceCursor]
      exact List.take_left' rfl

theorem CursorKind.mark_injective : Function.Injective CursorKind.mark := by
  intro kind other same
  revert same
  cases kind <;> cases other <;> decide

section RoundTrip

variable (narrow : build.limit ≤ 2 ^ 64)

include narrow

/-- Whatever fits its types is printed within the limit of the parser. -/
theorem Prints.length_le (prints : Prints kind fields cursor) (fits : fields.Fits build) :
    cursor.length ≤ kind.maxLength := by
  have generation := length_decimal_le fits.generation
  have fingerprint : (hexadecimal fields.fingerprint).length ≤ 16 :=
    length_hexadecimal_le (by decide) fits.fingerprint
  have snapshot : (hexadecimal fields.snapshotFingerprint).length ≤ 16 :=
    length_hexadecimal_le (by decide) fits.snapshotFingerprint
  have index := length_decimal_le (lt_of_lt_of_le fits.index narrow)
  cases prints with
  | page =>
      have mark : (utf8 "v1:").length = 3 := rfl
      simp only [utf8_pageCursor, List.length_append, List.length_cons, mark,
        CursorKind.maxLength] at generation index ⊢
      omega
  | discovery =>
      have mark : (utf8 "v2:").length = 3 := rfl
      simp only [utf8_discoveryCursor, List.length_append, List.length_cons, mark,
        CursorKind.maxLength] at generation fingerprint index ⊢
      omega
  | patch =>
      have mark : (utf8 "v3:").length = 3 := rfl
      simp only [utf8_patchCursor, List.length_append, List.length_cons, mark,
        CursorKind.maxLength] at generation fingerprint snapshot index ⊢
      omega
  | trace trace value position canonical =>
      have mark : (utf8 "v4:").length = 3 := rfl
      have uuid : (utf8 trace.id).length = 36 := by
        rw [isUuid, Bool.and_eq_true, beq_iff_eq] at canonical
        exact canonical.1
      simp only [utf8_traceCursor, List.length_append, List.length_cons, mark, uuid,
        CursorKind.maxLength] at fingerprint index ⊢
      omega

theorem Prints.parse_eq (prints : Prints kind fields cursor) (fits : fields.Fits build) :
    kind.parse build cursor = fields := by
  have inside : ¬ (cursor.take 3 ≠ kind.mark ∨ kind.maxLength < cursor.length) := by
    rw [not_or, not_not, Nat.not_lt]
    exact ⟨prints.marked, prints.length_le narrow fits⟩
  rcases fits with ⟨generationFits, fingerprintFits, snapshotFits, indexFits⟩
  cases prints with
  | page generation index =>
      have mark : (utf8 "v1:").length = 3 := rfl
      simp only [CursorKind.parse, parseCursor]
      refine (if_neg inside).trans ?_
      rw [utf8_pageCursor, List.drop_left' mark, splitColon_append (colon_notMem_decimal generation)]
      simp only [readField_decimal generationFits, readField_decimal indexFits, Bool.and_self]
  | discovery request generation index =>
      simp only [CursorKind.parse] at generationFits fingerprintFits indexFits ⊢
      rw [parseDiscoveryCursor_discoveryCursor narrow generationFits fingerprintFits indexFits]
  | patch request generation snapshotFingerprint index =>
      simp only [CursorKind.parse] at generationFits fingerprintFits snapshotFits indexFits ⊢
      rw [parsePatchCursor_patchCursor narrow generationFits fingerprintFits indexFits snapshotFits]
  | trace trace fingerprint index canonical =>
      have mark : (utf8 "v4:").length = 3 := rfl
      simp only [CursorKind.parse, parseTraceCursor]
      refine (if_neg inside).trans ?_
      rw [utf8_traceCursor, List.drop_left' mark,
        splitColon_append (colon_notMem_of_isUuid canonical)]
      simp only [splitColon_append (colon_notMem_hexadecimal _), canonical,
        readField_hexadecimal fingerprintFits, readField_decimal indexFits, Bool.and_self]

end RoundTrip

/-- Every printed cursor is read back by its own parser within its limit and refused by the
others, and an accepted cursor spells its fields and reads the same when it is printed
again. -/
theorem cursor_codecs (narrow : build.limit ≤ 2 ^ 64) :
    (∀ {kind fields cursor}, Prints kind fields cursor → fields.Fits build →
      cursor.length ≤ kind.maxLength ∧ kind.parse build cursor = fields) ∧
    (∀ {kind other fields cursor}, Prints kind fields cursor → other ≠ kind →
      (other.parse build cursor).accepted = false) ∧
    ∀ {kind cursor}, (kind.parse build cursor).accepted = true →
      Spells (kind.parse build cursor) cursor kind ∧
      (∃ again, Prints kind (kind.parse build cursor) again) ∧
      ∀ again, Prints kind (kind.parse build cursor) again →
        kind.parse build again = kind.parse build cursor := by
  refine ⟨?_, ?_, ?_⟩
  · intro kind fields cursor prints fits
    exact ⟨prints.length_le narrow fits, prints.parse_eq narrow fits⟩
  · intro kind other fields cursor prints foreign
    rw [← Bool.not_eq_true]
    intro accepted
    have marked := (CursorKind.parse_accepted accepted).marked.symm.trans prints.marked
    exact foreign (CursorKind.mark_injective marked)
  · intro kind cursor accepted
    have taken := CursorKind.parse_accepted accepted
    exact ⟨taken.spells, taken.printable, fun again prints => prints.parse_eq narrow taken.fits⟩

/-- The build for 64 bits. -/
def wideBuild : Build where
  pointerBytes := 8
  maxConditionalExprSize := 256

/-- The largest numbers go through a cursor. -/
theorem cursor_codecs_largest :
    CursorKind.patch.parse wideBuild
        (utf8 (patchCursor (fingerprinted (2 ^ 64 - 1)) (2 ^ 64 - 1) (2 ^ 64 - 1) (2 ^ 64 - 1))) =
      { accepted := true, generation := 2 ^ 64 - 1, fingerprint := 2 ^ 64 - 1
        snapshotFingerprint := 2 ^ 64 - 1, index := 2 ^ 64 - 1 } := by
  have narrow : wideBuild.limit ≤ 2 ^ 64 := by decide
  have prints := Prints.patch (fingerprinted (2 ^ 64 - 1)) (2 ^ 64 - 1) (2 ^ 64 - 1) (2 ^ 64 - 1)
  exact ((cursor_codecs narrow).1 prints ⟨by decide, by decide, by decide, by decide⟩).2

end X64dbgMcp.Plugin
