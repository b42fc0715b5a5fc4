import X64dbgMcp.Settings.ServerConfig
import X64dbgMcp.Text.Toml

/-!
# What the controller accepts

A line that the controller accepts is blank, a comment, or an entry with one of the
three keys.  The lines of the controller and the lines of TOML differ by carriage
returns at their ends, which the controller trims.
-/

namespace X64dbgMcp.Settings

open Text

/-! ## Trimming -/

theorem gap_of_isTrailing {bytes : List UInt8} (trailing : ∀ byte ∈ bytes, isTrailing byte = true) :
    Toml.Gap bytes := by
  intro byte member
  have held := trailing byte member
  rw [isTrailing, Bool.or_eq_true, beq_iff_eq] at held
  exact held

/-- What trimming takes away. -/
theorem trim_spec (line : List UInt8) :
    ∃ lead tail, line = lead ++ (trim line ++ tail) ∧ (∀ byte ∈ lead, isBlank byte = true) ∧
      Toml.Gap tail := by
  refine ⟨line.takeWhile isBlank, (line.dropWhile isBlank).rtakeWhile isTrailing, ?_, ?_, ?_⟩
  · rw [trim, List.rdropWhile_append_rtakeWhile, List.takeWhile_append_dropWhile]
  · exact fun byte member => List.mem_takeWhile_imp member
  · exact gap_of_isTrailing fun byte member => List.mem_rtakeWhile_imp member

theorem head_trim {line : List UInt8} {first : UInt8} (starts : (trim line).head? = some first) :
    isBlank first = false := by
  rcases List.rdropWhile_prefix isTrailing (line.dropWhile isBlank) with ⟨rest, whole⟩
  rcases held : trim line with _ | ⟨byte, others⟩
  · rw [held] at starts
    cases starts
  · rw [held] at starts
    cases starts
    rw [trim] at held
    rw [held] at whole
    have dropped := List.head?_dropWhile_not isBlank line
    rw [← whole] at dropped
    simpa using dropped

theorem trim_concat {last : UInt8} (trailing : isTrailing last = true) (value : List UInt8) :
    trim (value ++ [last]) = trim value := by
  rw [trim, trim, List.dropWhile_append]
  split_ifs with empty
  · rw [List.isEmpty_iff.mp empty, List.dropWhile_cons]
    split_ifs
    · rfl
    · exact List.rdropWhile_concat_pos _ [] last trailing
  · exact List.rdropWhile_concat_pos _ _ _ trailing

theorem trim_trim (line : List UInt8) : trim (trim line) = trim line := by
  have solid : (trim line).dropWhile isBlank = trim line := by
    rcases held : trim line with _ | ⟨first, others⟩
    · rfl
    · exact List.dropWhile_cons_of_neg (by rw [head_trim (by rw [held]; rfl)]; decide)
  rw [trim, solid, trim, List.rdropWhile_idempotent]

/-! ## Quoted values -/

theorem quotedValue_spec {value body : List UInt8} (reads : quotedValue value = some body) :
    trim value = 0x22 :: (body ++ [0x22]) ∧ body ≠ [] ∧ 0x22 ∉ body ∧
      ∀ byte ∈ body, Toml.isTextByte byte = true ∧ byte ≠ 0x09 := by
  simp only [quotedValue] at reads
  split_ifs at reads with shape plain
  cases reads
  simp only [not_or, Nat.not_lt, not_not] at shape plain
  rcases shape with ⟨long, starts, ends⟩
  rcases plain with ⟨nonempty, noQuote, noControl⟩
  generalize trim value = trimmed at *
  rcases trimmed with _ | ⟨first, rest⟩
  · cases starts
  · cases starts
    rcases List.eq_nil_or_concat rest with rfl | ⟨body, last, rfl⟩
    · simp at long
    · have isLast : last = 0x22 := by
        simpa [List.getLast?_cons, List.concat_eq_append] using ends
      have middle : ((0x22 :: body.concat last).drop 1).take ((0x22 :: body.concat last).length - 2) =
          body := by
        simp [List.concat_eq_append]
      rw [middle] at nonempty noQuote noControl ⊢
      refine ⟨by rw [isLast, List.concat_eq_append], by simpa using nonempty, noQuote, ?_⟩
      intro byte member
      rw [hasControl, List.any_eq_true] at noControl
      have free : ¬(byte < 0x20 || byte == 0x7f) = true := fun control =>
        noControl ⟨byte, member, control⟩
      rw [Bool.or_eq_true, decide_eq_true_eq, beq_iff_eq, not_or, UInt8.not_lt] at free
      refine ⟨?_, ?_⟩
      · simp [Toml.isTextByte, free]
      · rintro rfl
        exact absurd free.1 (by decide)

/-! ## Lines -/

theorem parseLine_withoutReturn (found : Found) (line : List UInt8) :
    parseLine found (withoutReturn line) = parseLine found line := by
  rw [withoutReturn]
  split_ifs with ends
  · rcases List.eq_nil_or_concat line with rfl | ⟨front, last, rfl⟩
    · cases ends
    · have isLast : last = 0x0d := by simpa [List.concat_eq_append] using ends
      rw [List.concat_eq_append, List.dropLast_concat, isLast, parseLine, parseLine,
        trim_concat (show isTrailing 0x0d = true from rfl)]
  · rfl

theorem foldlM_withoutReturn (found : Found) (pieces : List (List UInt8)) :
    (pieces.map withoutReturn).foldlM parseLine found = pieces.foldlM parseLine found := by
  induction pieces generalizing found with
  | nil => rfl
  | cons line pieces ih =>
      rw [List.map_cons, List.foldlM_cons, List.foldlM_cons, parseLine_withoutReturn]
      exact bind_congr fun found => ih found

/-- Two lines that differ by a carriage return at the end. -/
def SameLine (piece line : List UInt8) : Prop :=
  piece = line ∨ piece = line ++ [0x0d]

theorem SameLine.parseLine {piece line : List UInt8} (same : SameLine piece line) (found : Found) :
    parseLine found piece = parseLine found line := by
  rcases same with rfl | rfl
  · rfl
  · simp only [Settings.parseLine, trim_concat (show isTrailing 0x0d = true from rfl)]

theorem SameLine.cons {piece line : List UInt8} (same : SameLine piece line) (byte : UInt8) :
    SameLine (byte :: piece) (byte :: line) := by
  rcases same with rfl | rfl
  · exact .inl rfl
  · exact .inr rfl

theorem splitOn_toml (text : List UInt8) :
    List.Forall₂ SameLine (text.splitOn 0x0a) (Toml.lines text) := by
  fun_induction Toml.lines text with
  | case1 => exact .cons (.inl rfl) .nil
  | case2 rest ih =>
      have pieces : (0x0d :: 0x0a :: rest).splitOn 0x0a = [0x0d] :: rest.splitOn 0x0a := by
        rw [List.splitOn_cons_eq_if_modifyHead, if_neg (by decide),
          List.splitOn_cons_eq_if_modifyHead, if_pos (by decide)]
        rfl
      rw [pieces]
      exact .cons (.inr rfl) ih
  | case3 rest ih =>
      rw [List.splitOn_cons_eq_if_modifyHead, if_pos (by decide)]
      exact .cons (.inl rfl) ih
  | case4 byte rest _ ordinary line others followed ih =>
      have other : ¬(byte == 0x0a) = true := by
        rw [beq_iff_eq]
        exact ordinary
      rw [List.splitOn_cons_eq_if_modifyHead, if_neg other]
      rw [followed] at ih
      rcases held : rest.splitOn 0x0a with _ | ⟨piece, pieces⟩
      · exact absurd held (List.splitOn_ne_nil _ _)
      · rw [held] at ih
        cases ih with
        | cons same tail => exact .cons (same.cons byte) tail
  | case5 byte rest _ ordinary followed ih =>
      rw [followed] at ih
      cases held : rest.splitOn 0x0a with
      | nil => exact absurd held (List.splitOn_ne_nil _ _)
      | cons piece pieces =>
          rw [held] at ih
          cases ih

theorem foldlM_of_sameLines {pieces lines : List (List UInt8)}
    (same : List.Forall₂ SameLine pieces lines) (found : Found) :
    pieces.foldlM parseLine found = lines.foldlM parseLine found := by
  induction same generalizing found with
  | nil => rfl
  | cons first _ ih =>
      rw [List.foldlM_cons, List.foldlM_cons, first.parseLine]
      exact bind_congr fun found => ih found

/-- The controller reads the lines of TOML. -/
theorem foldlM_lines {text : List UInt8} (nonempty : text ≠ []) (found : Found) :
    (lines text).foldlM parseLine found = (Toml.lines text).foldlM parseLine found := by
  rw [← foldlM_of_sameLines (splitOn_toml text), lines, if_neg (by simpa using nonempty)]
  dsimp only
  rw [foldlM_withoutReturn]
  split_ifs with empty
  · -- the empty line at the end changes nothing
    rcases List.eq_nil_or_concat (text.splitOn 0x0a) with none | ⟨front, last, whole⟩
    · rw [none] at empty
      cases empty
    · rw [whole, List.concat_eq_append] at empty ⊢
      have isLast : last = [] := by simpa using empty
      rw [List.dropLast_concat, List.foldlM_append, isLast]
      cases front.foldlM parseLine found <;> rfl
  · rfl

/-! ## Entries -/

/-- A line with a key, its sign and a value, and with blanks around them.  Behind the key
and behind the value there may also be carriage returns. -/
inductive IsEntry : (line key value tail : List UInt8) → Prop
  | mk {lead key gap space value tail : List UInt8} (blanks : ∀ byte ∈ lead, isBlank byte = true)
      (gaps : Toml.Gap gap) (spaces : ∀ byte ∈ space, isBlank byte = true)
      (tails : Toml.Gap tail) :
      IsEntry (lead ++ key ++ gap ++ 0x3d :: (space ++ (value ++ tail))) key value tail

/-- What the controller does with a line that it accepts. -/
inductive Reads (found : Found) (line : List UInt8) : Found → Prop
  | blank (gaps : Toml.Gap line) : Reads found line found
  | comment {lead comment : List UInt8} (blanks : ∀ byte ∈ lead, isBlank byte = true)
      (isComment : line = lead ++ 0x23 :: comment) : Reads found line found
  | bind {value tail : List UInt8} (entry : IsEntry line (utf8 "bind") value tail)
      (fresh : found.bind = none) (quoted : value = 0x22 :: (utf8 "127.0.0.1" ++ [0x22])) :
      Reads found line { found with bind := some (utf8 "127.0.0.1") }
  | port {value tail : List UInt8} {parsed : Nat} (entry : IsEntry line (utf8 "port") value tail)
      (fresh : found.port = none) (number : fromCharsAll 10 (2 ^ 32) value = some parsed)
      (range : parsed ≠ 0 ∧ parsed ≤ 65535) :
      Reads found line { found with port := some parsed }
  | token {value tail token : List UInt8}
      (entry : IsEntry line (utf8 "bearer_token") value tail) (fresh : found.token = none)
      (quoted : value = 0x22 :: (token ++ [0x22])) (noQuote : 0x22 ∉ token)
      (plain : ∀ byte ∈ token, Toml.isTextByte byte = true)
      (length : 32 ≤ token.length ∧ token.length ≤ 4096) :
      Reads found line { found with token := some token }

/-- The two halves of a line at its sign. -/
theorem isEntry_of_content {line : List UInt8} (sign : 0x3d ∈ trim line) {name : String}
    (named : trim ((trim line).takeWhile (· != 0x3d)) = utf8 name) :
    ∃ tail, IsEntry line (utf8 name) (trim ((trim line).dropWhile (· != 0x3d)).tail) tail := by
  rcases trim_spec line with ⟨lead, outer, whole, blanks, outerGap⟩
  have solid := @head_trim line
  generalize trim line = content at *
  rcases held : content.dropWhile (· != 0x3d) with _ | ⟨first, after⟩
  · rw [List.dropWhile_eq_nil_iff] at held
    exact absurd (held 0x3d sign) (by decide)
  · have isSign : first = 0x3d := by
      have stopped := List.head?_dropWhile_not (fun byte : UInt8 => byte != 0x3d) content
      rw [held] at stopped
      simpa using stopped
    have halves := List.takeWhile_append_dropWhile (p := fun byte : UInt8 => byte != 0x3d)
      (l := content)
    rw [held, isSign] at halves
    rcases trim_spec (content.takeWhile (· != 0x3d)) with ⟨inner, gap, front, innerBlanks, gaps⟩
    rcases trim_spec after with ⟨space, tail, back, spaces, tails⟩
    rw [named] at front
    -- the content starts with the key, for it starts with no blank
    have noInner : inner = [] := by
      rcases inner with _ | ⟨byte, inner⟩
      · rfl
      · rw [front] at halves
        have starts : content.head? = some byte := by rw [← halves]; rfl
        have blank := innerBlanks byte List.mem_cons_self
        rw [solid starts] at blank
        cases blank
    rw [front, noInner, List.nil_append] at halves
    have shape : line = lead ++ utf8 name ++ gap ++
        0x3d :: (space ++ (trim after ++ (tail ++ outer))) := by
      rw [whole, ← halves]
      nth_rewrite 1 [back]
      simp only [List.append_assoc, List.cons_append]
    refine ⟨tail ++ outer, ?_⟩
    rw [shape]
    refine .mk blanks gaps spaces fun byte member => ?_
    rcases List.mem_append.mp member with inTail | inOuter
    · exact tails byte inTail
    · exact outerGap byte inOuter

theorem parseBind_spec {found after : Found} {value : List UInt8}
    (accepted : parseBind found (trim value) = .ok after) :
    found.bind = none ∧ trim value = 0x22 :: (utf8 "127.0.0.1" ++ [0x22]) ∧
      after = { found with bind := some (utf8 "127.0.0.1") } := by
  rw [parseBind] at accepted
  split_ifs at accepted with repeated
  split at accepted
  · rename_i bind quoted
    split_ifs at accepted with isHost
    cases accepted
    have shape := (quotedValue_spec quoted).1
    rw [trim_trim] at shape
    exact ⟨by simpa using repeated, by rw [shape, isHost], by rw [isHost]⟩
  · cases accepted

theorem parsePort_spec {found after : Found} {value : List UInt8}
    (accepted : parsePort found value = .ok after) :
    ∃ parsed, found.port = none ∧ fromCharsAll 10 (2 ^ 32) value = some parsed ∧
      (parsed ≠ 0 ∧ parsed ≤ 65535) ∧ after = { found with port := some parsed } := by
  rw [parsePort] at accepted
  split_ifs at accepted with repeated
  split at accepted
  · rename_i parsed number
    split_ifs at accepted with outside
    cases accepted
    exact ⟨parsed, by simpa using repeated, number, by omega, rfl⟩
  · cases accepted

theorem parseToken_spec {found after : Found} {value : List UInt8}
    (accepted : parseToken found (trim value) = .ok after) :
    ∃ token, found.token = none ∧ trim value = 0x22 :: (token ++ [0x22]) ∧ 0x22 ∉ token ∧
      (∀ byte ∈ token, Toml.isTextByte byte = true) ∧ (32 ≤ token.length ∧ token.length ≤ 4096) ∧
      after = { found with token := some token } := by
  rw [parseToken] at accepted
  split_ifs at accepted with repeated
  split at accepted
  · rename_i token quoted
    split_ifs at accepted with outside
    cases accepted
    rcases quotedValue_spec quoted with ⟨shape, -, noQuote, plain⟩
    rw [trim_trim] at shape
    exact ⟨token, by simpa using repeated, shape, noQuote, fun byte member => (plain byte member).1,
      by omega, rfl⟩
  · cases accepted

theorem reads_of_parseLine {found after : Found} {line : List UInt8}
    (accepted : parseLine found line = .ok after) : Reads found line after := by
  simp only [parseLine] at accepted
  split_ifs at accepted with skipped sign isBind isPort isToken
  · cases accepted
    rcases trim_spec line with ⟨lead, tail, whole, blanks, gaps⟩
    rcases skipped with empty | comment
    · rw [List.isEmpty_iff] at empty
      rw [empty, List.nil_append] at whole
      refine .blank fun byte member => ?_
      rw [whole] at member
      rcases List.mem_append.mp member with inLead | inTail
      · exact .inl (blanks byte inLead)
      · exact gaps byte inTail
    · rcases held : trim line with _ | ⟨first, rest⟩
      · rw [held] at comment
        cases comment
      · rw [held] at comment whole
        cases comment
        exact .comment blanks whole
  · rcases isEntry_of_content sign isBind with ⟨tail, entry⟩
    rcases parseBind_spec accepted with ⟨fresh, quoted, rfl⟩
    exact .bind entry fresh quoted
  · rcases isEntry_of_content sign isPort with ⟨tail, entry⟩
    rcases parsePort_spec accepted with ⟨parsed, fresh, number, range, rfl⟩
    exact .port entry fresh number range
  · rcases isEntry_of_content sign isToken with ⟨tail, entry⟩
    rcases parseToken_spec accepted with ⟨token, fresh, quoted, noQuote, plain, length, rfl⟩
    exact .token entry fresh quoted noQuote plain length

end X64dbgMcp.Settings
