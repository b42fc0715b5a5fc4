import X64dbgMcp.Settings.FileConfig
import X64dbgMcp.Settings.LineReading

/-!
# Two readers of one file

The controller talks to the sidecar with what it has read itself.  Its reader knows no
escapes, takes a number with leading zeros and trims carriage returns; TOML does none of
this.  Where none of it occurs both readers come to the same configuration, and where
one of them occurs they do not.
-/

namespace X64dbgMcp.Settings

open Text

/-- A line that means the same to both readers: a comment without control characters, or
no carriage return, no backslash and no value that starts with a zero. -/
def Plain (line : List UInt8) : Prop :=
  if (line.dropWhile isBlank).head? = some 0x23 then ∀ byte ∈ line, Toml.isTextByte byte = true
  else
    0x0d ∉ line ∧ 0x5c ∉ line ∧
      ((line.dropWhile (· != 0x3d)).tail.dropWhile isBlank).head? ≠ some 0x30

instance (line : List UInt8) : Decidable (Plain line) :=
  inferInstanceAs (Decidable
    (if (line.dropWhile isBlank).head? = some 0x23 then ∀ byte ∈ line, Toml.isTextByte byte = true
    else
      0x0d ∉ line ∧ 0x5c ∉ line ∧
        ((line.dropWhile (· != 0x3d)).tail.dropWhile isBlank).head? ≠ some 0x30))

/-- A text that means the same to both readers. -/
structure Coincides (text : List UInt8) : Prop where
  characters : fromUtf8 text = .valid
  plain : ∀ line ∈ Toml.lines text, Plain line

/-- The sidecar listens where the controller knocks, and expects the token that it shows. -/
structure Agrees (sources : Sources) (config : ServerConfig) (loaded : Config) : Prop where
  bind : parseIp sources config.bind = some loaded.bind
  port : loaded.port = config.port
  bearerToken : loaded.bearerToken = config.bearerToken

/-! ## One entry -/

section Entries

variable {line key value tail : List UInt8}

theorem notMem_of_isBlank {bytes : List UInt8} (blanks : ∀ byte ∈ bytes, isBlank byte = true)
    {byte : UInt8} (solid : isBlank byte = false) : byte ∉ bytes := by
  intro member
  rw [blanks byte member] at solid
  cases solid

theorem notMem_of_gap {bytes : List UInt8} (gaps : Toml.Gap bytes) {byte : UInt8}
    (solid : isBlank byte = false) (other : byte ≠ 0x0d) : byte ∉ bytes := by
  intro member
  rcases gaps byte member with blank | same
  · have both : isBlank byte = true := blank
    rw [solid] at both
    cases both
  · exact other same

theorem notMem_of_bare {bytes : List UInt8} (bare : ∀ byte ∈ bytes, Toml.isBareKeyByte byte = true)
    {byte : UInt8} (foreign : Toml.isBareKeyByte byte = false) : byte ∉ bytes := by
  intro member
  rw [bare byte member] at foreign
  cases foreign

/-- What is in an entry, and how TOML reads it. -/
theorem IsEntry.spec (entry : IsEntry line key value tail)
    (bare : key ≠ [] ∧ ∀ byte ∈ key, Toml.isBareKeyByte byte = true) {first : UInt8}
    (starts : value.head? = some first) (solid : isBlank first = false) :
    (Plain line ↔ 0x0d ∉ line ∧ 0x5c ∉ value ∧ first ≠ 0x30) ∧
      ∃ gap : List UInt8, (0x0d ∈ line ↔ 0x0d ∈ gap ∨ 0x0d ∈ value ∨ 0x0d ∈ tail) ∧
        Toml.expression line = if 0x0d ∈ gap then none
          else (Toml.value (value ++ tail)).bind fun found =>
            if Toml.endsLine found.2 then some (some (key, found.1)) else none := by
  cases entry with
  | @mk lead _ gap space _ _ blanks gaps spaces tails =>
      have behind : (value ++ tail).head? = some first := by
        rcases value with _ | ⟨byte, value⟩
        · cases starts
        · exact starts
      refine ⟨?_, gap, ?_, Toml.expression_of_entry blanks bare gaps spaces behind solid⟩
      · have notComment : ((lead ++ key ++ gap ++ 0x3d :: (space ++ (value ++ tail))).dropWhile
            isBlank).head? ≠ some 0x23 := by
          rcases bare with ⟨nonempty, bare⟩
          rcases List.exists_cons_of_ne_nil nonempty with ⟨initial, others, rfl⟩
          have initialBare := bare initial List.mem_cons_self
          have notBlank : ¬isBlank initial = true := by
            intro blank
            rw [isBlank, Bool.or_eq_true, beq_iff_eq, beq_iff_eq] at blank
            rcases blank with rfl | rfl <;> revert initialBare <;> decide
          rw [List.append_assoc, List.append_assoc, List.dropWhile_append_of_pos blanks,
            List.cons_append, List.dropWhile_cons_of_neg notBlank, List.head?_cons, ne_eq,
            Option.some.injEq]
          rintro rfl
          revert initialBare
          decide
        have unsigned : ∀ byte ∈ lead ++ key ++ gap, (byte != 0x3d) = true := by
          intro byte member
          rw [bne_iff_ne]
          rintro rfl
          simp only [List.mem_append] at member
          rcases member with (inLead | inKey) | inGap
          · exact notMem_of_isBlank blanks (by decide) inLead
          · exact notMem_of_bare bare.2 (by decide) inKey
          · exact notMem_of_gap gaps (by decide) (by decide) inGap
        have valueStarts : (((lead ++ key ++ gap ++ 0x3d :: (space ++ (value ++ tail))).dropWhile
            (· != 0x3d)).tail.dropWhile isBlank).head? = some first := by
          rw [List.dropWhile_append_of_pos unsigned, List.dropWhile_cons_of_neg (by decide),
            List.tail_cons, List.dropWhile_append_of_pos spaces]
          rcases rest : value ++ tail with _ | ⟨byte, more⟩
          · rw [rest] at behind
            cases behind
          · rw [rest] at behind
            cases behind
            rw [List.dropWhile_cons_of_neg (by rw [solid]; decide)]
            rfl
        have escapes : 0x5c ∈ lead ++ key ++ gap ++ 0x3d :: (space ++ (value ++ tail)) ↔
            0x5c ∈ value := by
          have inLead := @notMem_of_isBlank _ blanks 0x5c (by decide)
          have inKey := @notMem_of_bare _ bare.2 0x5c (by decide)
          have inGap := @notMem_of_gap _ gaps 0x5c (by decide) (by decide)
          have inSpace := @notMem_of_isBlank _ spaces 0x5c (by decide)
          have inTail := @notMem_of_gap _ tails 0x5c (by decide) (by decide)
          simp [inLead, inKey, inGap, inSpace, inTail]
        rw [Plain, if_neg notComment, valueStarts, escapes, ne_eq, Option.some.injEq]
      · have inLead := @notMem_of_isBlank _ blanks 0x0d (by decide)
        have inKey := @notMem_of_bare _ bare.2 0x0d (by decide)
        have inSpace := @notMem_of_isBlank _ spaces 0x0d (by decide)
        simp [inLead, inKey, inSpace]

theorem IsEntry.gap_tail (entry : IsEntry line key value tail) : Toml.Gap tail := by
  cases entry with
  | mk _ _ _ tails => exact tails

/-- An entry with a quoted value, as TOML reads it. -/
theorem expression_quoted {body : List UInt8} (entry : IsEntry line key value tail)
    (bare : key ≠ [] ∧ ∀ byte ∈ key, Toml.isBareKeyByte byte = true)
    (quoted : value = 0x22 :: (body ++ [0x22])) (noQuote : 0x22 ∉ body)
    (plain : ∀ byte ∈ body, Toml.isTextByte byte = true) :
    (Plain line → Toml.expression line = some (some (key, .string body))) ∧
      ∀ read, Toml.expression line = some read → ∃ held, read = some (key, .string held) ∧
        (Plain line ∨ 0x5c ∈ body ∧ held ≠ body) := by
  have tails := entry.gap_tail
  have starts : value.head? = some 0x22 := by rw [quoted]; rfl
  rcases entry.spec bare starts (by decide) with ⟨plainly, gap, returns, reads⟩
  have noReturn : 0x0d ∉ body := by
    intro member
    have isText := plain 0x0d member
    revert isText
    decide
  have escapes : 0x5c ∈ value ↔ 0x5c ∈ body := by
    rw [quoted]
    simp
  have whole : value ++ tail = 0x22 :: (body ++ 0x22 :: tail) := by
    rw [quoted]
    simp
  have inside : 0x0d ∉ value := by
    rw [quoted]
    simp [noReturn]
  rw [or_iff_right inside] at returns
  rw [escapes] at plainly
  rw [whole] at reads
  constructor
  · intro isPlain
    rcases plainly.mp isPlain with ⟨free, unescaped, -⟩
    rw [returns, not_or] at free
    have read := @Toml.basicString_plain body tail fun byte member =>
      ⟨plain byte member, fun same => noQuote (same ▸ member), fun same => unescaped (same ▸ member)⟩
    rw [reads, if_neg free.1]
    simp only [Toml.value, read, Option.map_some, Option.bind_some]
    rw [if_pos ((Toml.endsLine_of_gap tails).mpr free.2)]
  · intro read isRead
    rw [reads] at isRead
    split_ifs at isRead with early
    rw [Option.bind_eq_some_iff] at isRead
    rcases isRead with ⟨found, isValue, isRead⟩
    split_ifs at isRead with ends
    cases isRead
    simp only [Toml.value, Option.map_eq_some_iff] at isValue
    rcases isValue with ⟨⟨held, rest⟩, isString, same⟩
    cases same
    rcases Toml.basicString_shrinks (fun _ _ open_ => by cases open_) isString with
      ⟨raw, split, -, shorter⟩
    -- the closing quote is the only quote behind the opening one
    have unquoted : 0x22 ∉ tail := notMem_of_gap tails (by decide) (by decide)
    have single := congrArg (List.count 0x22) split
    rw [List.count_append, List.count_append, List.count_cons_self, List.count_cons_self,
      List.count_eq_zero_of_not_mem noQuote, List.count_eq_zero_of_not_mem unquoted] at single
    have unquotedRaw : 0x22 ∉ raw := List.count_eq_zero.mp (by omega)
    have halves := append_cons_inj_of_free noQuote unquotedRaw split
    rcases halves with ⟨rfl, rfl⟩
    refine ⟨held, rfl, ?_⟩
    by_cases escaped : 0x5c ∈ body
    · refine .inr ⟨escaped, ?_⟩
      rintro rfl
      exact absurd (shorter rfl escaped) (Nat.lt_irrefl _)
    · left
      have free := (Toml.endsLine_of_gap tails).mp ends
      exact plainly.mpr ⟨by rw [returns, not_or]; exact ⟨early, free⟩, escaped, by decide⟩

/-- An entry with a number, as TOML reads it. -/
theorem expression_number {parsed : Nat} (entry : IsEntry line key value tail)
    (bare : key ≠ [] ∧ ∀ byte ∈ key, Toml.isBareKeyByte byte = true)
    (number : fromCharsAll 10 (2 ^ 32) value = some parsed) (positive : parsed ≠ 0) :
    (Plain line → Toml.expression line = some (some (key, .integer parsed))) ∧
      ∀ read, Toml.expression line = some read → read = some (key, .integer parsed) ∧ Plain line := by
  have tails := entry.gap_tail
  rcases number_of_fromCharsAll number with ⟨nonempty, digits, parsedIs, fits⟩
  rcases List.exists_cons_of_ne_nil nonempty with ⟨first, others, shape⟩
  have starts : value.head? = some first := by rw [shape]; rfl
  have firstDigit : isDigit 10 first = true := digits first (by rw [shape]; exact List.mem_cons_self)
  have solid : isBlank first = false := by
    rw [isBlank, Bool.or_eq_false_iff, beq_eq_false_iff_ne, beq_eq_false_iff_ne]
    constructor <;> rintro rfl <;> revert firstDigit <;> decide
  rcases entry.spec bare starts solid with ⟨plainly, gap, returns, reads⟩
  have inside : 0x0d ∉ value := fun member => absurd (digits 0x0d member) (by decide)
  have unescaped : 0x5c ∉ value := fun member => absurd (digits 0x5c member) (by decide)
  rw [or_iff_right inside] at returns
  have notQuote : first ≠ 0x22 := by
    rintro rfl
    revert firstDigit
    decide
  have ended : ∀ byte ∈ tail, isDigit 10 byte = false := by
    intro byte member
    rcases tails byte member with blank | rfl
    · rw [Toml.isBlank, Bool.or_eq_true, beq_iff_eq, beq_iff_eq] at blank
      rcases blank with rfl | rfl <;> decide
    · decide
  have taken : (value ++ tail).takeWhile (isDigit 10) = value := by
    rw [List.takeWhile_append_of_pos digits]
    rcases tail with _ | ⟨byte, tail⟩
    · exact List.append_nil _
    · rw [List.takeWhile_cons_of_neg (by rw [ended byte List.mem_cons_self]; decide),
        List.append_nil]
  have dropped : (value ++ tail).dropWhile (isDigit 10) = tail := by
    rw [List.dropWhile_append_of_pos digits]
    rcases tail with _ | ⟨byte, tail⟩
    · rfl
    · exact List.dropWhile_cons_of_neg (by rw [ended byte List.mem_cons_self]; decide)
  -- a zero alone would be the number zero
  have long : first = 0x30 → 1 < value.length := by
    rintro rfl
    rcases others with _ | ⟨second, others⟩
    · rw [shape] at parsedIs
      exact absurd parsedIs.symm positive
    · rw [shape]
      simp
  have valueIs : Toml.value (value ++ tail) =
      if first = 0x30 then none else some (.integer parsed, tail) := by
    have unquoted : Toml.value (value ++ tail) = (Toml.decimalInteger (value ++ tail)).map
        fun found => (.integer found.1, found.2) := by
      unfold Toml.value
      split
      · rename_i rest isQuote
        rw [shape] at isQuote
        exact absurd (List.cons.inj isQuote).1 notQuote
      · rfl
    rw [unquoted, Toml.decimalInteger, taken, dropped, ← parsedIs]
    by_cases zero : first = 0x30
    · rw [if_pos zero]
      rw [if_pos (Or.inr ⟨by rw [starts, zero], long zero⟩)]
      rfl
    · rw [if_neg zero]
      rw [if_neg, if_neg (by rw [parsedIs]; omega)]
      · rfl
      · rw [not_or, not_and_or]
        refine ⟨by simpa using nonempty, .inl ?_⟩
        rw [starts, Option.some.injEq]
        exact zero
  rw [valueIs] at reads
  constructor
  · intro isPlain
    rcases plainly.mp isPlain with ⟨free, -, noZero⟩
    rw [returns, not_or] at free
    rw [reads, if_neg free.1, if_neg noZero, Option.bind_some,
      if_pos ((Toml.endsLine_of_gap tails).mpr free.2)]
  · intro read isRead
    rw [reads] at isRead
    split_ifs at isRead with early zero
    · cases isRead
    rw [Option.bind_some] at isRead
    split_ifs at isRead with ends
    cases isRead
    have free := (Toml.endsLine_of_gap tails).mp ends
    exact ⟨rfl, plainly.mpr ⟨by rw [returns, not_or]; exact ⟨early, free⟩, unescaped, zero⟩⟩

end Entries

/-! ## One line after the other -/

section Lines

variable {found after : Found} {line : List UInt8} {table next : Toml.Table}

theorem isBareKey_bind : utf8 "bind" ≠ [] ∧
    ∀ byte ∈ utf8 "bind", Toml.isBareKeyByte byte = true :=
  ⟨by decide, List.all_eq_true.mp (by decide)⟩

theorem isText_loopback : ∀ byte ∈ utf8 "127.0.0.1", Toml.isTextByte byte = true :=
  List.all_eq_true.mp (by decide)

theorem isBareKey_port : utf8 "port" ≠ [] ∧
    ∀ byte ∈ utf8 "port", Toml.isBareKeyByte byte = true :=
  ⟨by decide, List.all_eq_true.mp (by decide)⟩

theorem isBareKey_bearerToken : utf8 "bearer_token" ≠ [] ∧
    ∀ byte ∈ utf8 "bearer_token", Toml.isBareKeyByte byte = true :=
  ⟨by decide, List.all_eq_true.mp (by decide)⟩

/-- A table with what the controller has found, and nothing else. -/
structure Mirrors (table : Toml.Table) (found : Found) : Prop where
  bind : table.lookup (utf8 "bind") = found.bind.map .string
  port : table.lookup (utf8 "port") = found.port.map fun port => .integer port
  token : table.lookup (utf8 "bearer_token") = found.token.map .string
  keys : ∀ entry ∈ table, entry.1 ∈ [utf8 "bind", utf8 "port", utf8 "bearer_token"]

theorem plain_of_comment {lead comment : List UInt8} (blanks : ∀ byte ∈ lead, isBlank byte = true) :
    Plain (lead ++ 0x23 :: comment) ↔ comment.all Toml.isTextByte = true := by
  have dropped : (lead ++ 0x23 :: comment).dropWhile isBlank = 0x23 :: comment := by
    rw [List.dropWhile_append_of_pos blanks]
    rfl
  have leading : ∀ byte ∈ lead, Toml.isTextByte byte = true := by
    intro byte member
    have blank := blanks byte member
    rw [isBlank, Bool.or_eq_true, beq_iff_eq, beq_iff_eq] at blank
    rcases blank with rfl | rfl <;> decide
  rw [Plain, dropped, List.head?_cons, if_pos rfl, List.all_eq_true]
  constructor
  · intro every byte member
    exact every byte (List.mem_append_right _ (List.mem_cons_of_mem _ member))
  · intro every byte member
    rcases List.mem_append.mp member with inLead | inComment
    · exact leading byte inLead
    · rcases List.mem_cons.mp inComment with rfl | inComment
      · decide
      · exact every byte inComment

theorem plain_of_gap (gaps : Toml.Gap line) : Plain line ↔ 0x0d ∉ line := by
  have foreign : ∀ byte : UInt8, isBlank byte = false → byte ≠ 0x0d → byte ∉ line :=
    fun byte solid other => notMem_of_gap gaps solid other
  have notComment : (line.dropWhile isBlank).head? ≠ some 0x23 := by
    intro starts
    exact foreign 0x23 (by decide) (by decide)
      ((List.dropWhile_suffix _).mem (List.mem_of_head? starts))
  have noSign : line.dropWhile (· != 0x3d) = [] := by
    rw [List.dropWhile_eq_nil_iff]
    intro byte member
    rw [bne_iff_ne]
    rintro rfl
    exact foreign 0x3d (by decide) (by decide) member
  rw [Plain, if_neg notComment, noSign]
  simp [foreign 0x5c (by decide) (by decide)]

/-- A table with one more entry. -/
theorem extend_entry {key : List UInt8} {value : Toml.Value}
    (reads : Toml.expression line = some (some (key, value))) (fresh : table.lookup key = none) :
    Toml.extend table line = some (table ++ [(key, value)]) := by
  rw [Toml.extend, reads]
  simp [fresh]

theorem lookup_extended (table : Toml.Table) (key other : List UInt8) (value : Toml.Value) :
    (table ++ [(key, value)]).lookup other =
      (table.lookup other).or (if other = key then some value else none) := by
  rw [List.lookup_append, List.lookup_cons]
  by_cases same : other = key
  · rw [if_pos same, beq_iff_eq.mpr same]
  · rw [if_neg same, beq_false_of_ne same]
    rfl

theorem mem_extended {key : List UInt8} {value : Toml.Value} {keys : List (List UInt8)}
    (held : ∀ entry ∈ table, entry.1 ∈ keys) (known : key ∈ keys) :
    ∀ entry ∈ table ++ [(key, value)], entry.1 ∈ keys := by
  intro entry member
  rcases List.mem_append.mp member with inTable | isNew
  · exact held entry inTable
  · rw [List.mem_singleton.mp isNew]
    exact known

/-- A line that means the same to both readers keeps them together. -/
theorem Reads.extends (reads : Reads found line after) (isPlain : Plain line)
    (mirrors : Mirrors table found) : ∃ next, Toml.extend table line = some next ∧ Mirrors next after := by
  cases reads with
  | blank gaps =>
      refine ⟨table, ?_, mirrors⟩
      rw [Toml.extend, Toml.expression_of_gap gaps, if_neg ((plain_of_gap gaps).mp isPlain)]
      rfl
  | comment blanks isComment =>
      subst isComment
      refine ⟨table, ?_, mirrors⟩
      rw [Toml.extend, Toml.expression_of_comment blanks,
        if_pos ((plain_of_comment blanks).mp isPlain)]
      rfl
  | bind entry fresh quoted =>
      have read := (expression_quoted entry isBareKey_bind quoted (by decide) isText_loopback).1 isPlain
      refine ⟨_, extend_entry read (by rw [mirrors.bind, fresh]; rfl), ?_⟩
      exact
        { bind := by rw [lookup_extended, if_pos rfl, mirrors.bind, fresh]; rfl
          port := by rw [lookup_extended, if_neg (by decide), mirrors.port, Option.or_none]
          token := by rw [lookup_extended, if_neg (by decide), mirrors.token, Option.or_none]
          keys := mem_extended mirrors.keys (by decide) }
  | port entry fresh number range =>
      have read := (expression_number entry isBareKey_port number range.1).1 isPlain
      refine ⟨_, extend_entry read (by rw [mirrors.port, fresh]; rfl), ?_⟩
      exact
        { bind := by rw [lookup_extended, if_neg (by decide), mirrors.bind, Option.or_none]
          port := by rw [lookup_extended, if_pos rfl, mirrors.port, fresh]; rfl
          token := by rw [lookup_extended, if_neg (by decide), mirrors.token, Option.or_none]
          keys := mem_extended mirrors.keys (by decide) }
  | token entry fresh quoted noQuote plain length =>
      have read := (expression_quoted entry isBareKey_bearerToken quoted noQuote plain).1 isPlain
      refine ⟨_, extend_entry read (by rw [mirrors.token, fresh]; rfl), ?_⟩
      exact
        { bind := by rw [lookup_extended, if_neg (by decide), mirrors.bind, Option.or_none]
          port := by rw [lookup_extended, if_neg (by decide), mirrors.port, Option.or_none]
          token := by rw [lookup_extended, if_pos rfl, mirrors.token, fresh]; rfl
          keys := mem_extended mirrors.keys (by decide) }

theorem foldlM_extend {found after : Found} {lines : List (List UInt8)} {table : Toml.Table}
    (accepted : lines.foldlM parseLine found = .ok after) (plain : ∀ line ∈ lines, Plain line)
    (mirrors : Mirrors table found) :
    ∃ next, lines.foldlM Toml.extend table = some next ∧ Mirrors next after := by
  induction lines generalizing found table with
  | nil =>
      cases accepted
      exact ⟨table, rfl, mirrors⟩
  | cons line lines ih =>
      rw [List.foldlM_cons] at accepted
      cases first : parseLine found line with
      | error message =>
          rw [first] at accepted
          cases accepted
      | ok middle =>
          rw [first] at accepted
          rcases (reads_of_parseLine first).extends (plain line List.mem_cons_self) mirrors with
            ⟨extended, step, mirrored⟩
          rcases ih accepted (fun other member => plain other (List.mem_cons_of_mem _ member)) mirrored
            with ⟨next, rest, final⟩
          exact ⟨next, by rw [List.foldlM_cons, step]; exact rest, final⟩

/-- The two readers hold different tokens. -/
def Strays (table : Toml.Table) (found : Found) : Prop :=
  ∃ held token, table.lookup (utf8 "bearer_token") = some (.string held) ∧
    found.token = some token ∧ held ≠ token

/-- What a line adds to a table. -/
theorem extend_eq_some (extends_ : Toml.extend table line = some next) :
    (Toml.expression line = some none ∧ next = table) ∨
      ∃ key value, Toml.expression line = some (some (key, value)) ∧ table.lookup key = none ∧
        next = table ++ [(key, value)] := by
  rw [Toml.extend, Option.bind_eq_bind, Option.bind_eq_some_iff] at extends_
  rcases extends_ with ⟨read, isRead, extends_⟩
  rcases read with _ | ⟨key, value⟩
  · cases extends_
    exact .inl ⟨isRead, rfl⟩
  · dsimp only at extends_
    split_ifs at extends_ with defined
    cases extends_
    exact .inr ⟨key, value, isRead, Option.not_isSome_iff_eq_none.mp defined, rfl⟩

theorem oneLine_quoted {key value tail body : List UInt8} (entry : IsEntry line key value tail)
    (bare : key ≠ [] ∧ ∀ byte ∈ key, Toml.isBareKeyByte byte = true)
    (quoted : value = 0x22 :: (body ++ [0x22])) (noQuote : 0x22 ∉ body) (nonempty : body ≠ []) :
    Toml.OneLine line := by
  cases entry with
  | @mk lead _ gap space _ _ blanks gaps spaces tails =>
      have single : (body ++ [0x22] ++ tail).take 2 ≠ [0x22, 0x22] := by
        rcases List.exists_cons_of_ne_nil nonempty with ⟨first, others, rfl⟩
        intro doubled
        simp only [List.cons_append, List.take_succ_cons] at doubled
        rw [(List.cons.inj doubled).1] at noQuote
        exact noQuote List.mem_cons_self
      rw [quoted, List.cons_append]
      exact .text blanks bare gaps spaces single

/-- A line that both readers accept means the same to both, or they part at it. -/
theorem Reads.plain_or_strays (reads : Reads found line after)
    (extends_ : Toml.extend table line = some next) : Plain line ∨ Strays next after := by
  cases reads with
  | blank gaps =>
      left
      rw [plain_of_gap gaps]
      intro returns
      rw [Toml.extend, Toml.expression_of_gap gaps, if_pos returns] at extends_
      cases extends_
  | comment blanks isComment =>
      subst isComment
      left
      rw [plain_of_comment blanks]
      by_contra control
      rw [Toml.extend, Toml.expression_of_comment blanks, if_neg control] at extends_
      cases extends_
  | bind entry fresh quoted =>
      left
      have read := (expression_quoted entry isBareKey_bind quoted (by decide) isText_loopback).2
      rcases extend_eq_some extends_ with ⟨empty, -⟩ | ⟨key, value, isRead, -, -⟩
      · rcases read _ empty with ⟨held, same, -⟩
        cases same
      · rcases read _ isRead with ⟨held, -, isPlain | ⟨escaped, -⟩⟩
        · exact isPlain
        · exact absurd escaped (by decide)
  | port entry fresh number range =>
      left
      have read := (expression_number entry isBareKey_port number range.1).2
      rcases extend_eq_some extends_ with ⟨empty, -⟩ | ⟨key, value, isRead, -, -⟩
      · exact (read _ empty).2
      · exact (read _ isRead).2
  | token entry fresh quoted noQuote plain length =>
      have read := (expression_quoted entry isBareKey_bearerToken quoted noQuote plain).2
      rcases extend_eq_some extends_ with ⟨empty, -⟩ | ⟨key, value, isRead, undefined, rfl⟩
      · rcases read _ empty with ⟨held, same, -⟩
        cases same
      · rcases read _ isRead with ⟨held, same, plain_or⟩
        cases same
        refine plain_or.imp_right fun other => ⟨held, _, ?_, rfl, other.2⟩
        rw [lookup_extended, if_pos rfl, undefined]
        rfl

/-- Readers that have parted stay apart. -/
theorem Strays.step (strays : Strays table found) (reads : Reads found line after)
    (extends_ : Toml.extend table line = some next) : Strays next after := by
  rcases strays with ⟨held, token, inTable, inFound, other⟩
  refine ⟨held, token, ?_, ?_, other⟩
  · rcases extend_eq_some extends_ with ⟨-, rfl⟩ | ⟨key, value, -, -, rfl⟩
    · exact inTable
    · rw [lookup_extended, inTable]
      rfl
  · cases reads with
    | token _ fresh _ _ _ _ =>
        rw [fresh] at inFound
        cases inFound
    | blank _ => exact inFound
    | comment _ _ => exact inFound
    | bind _ _ _ => exact inFound
    | port _ _ _ _ => exact inFound

theorem plain_or_strays_foldlM {lines : List (List UInt8)}
    (accepted : lines.foldlM parseLine found = .ok after)
    (read : lines.foldlM Toml.extend table = some next) :
    ((∀ line ∈ lines, Plain line) ∨ Strays next after) ∧ (Strays table found → Strays next after) := by
  induction lines generalizing found table with
  | nil =>
      cases accepted
      cases read
      exact ⟨.inl fun line member => absurd member List.not_mem_nil, id⟩
  | cons line lines ih =>
      rw [List.foldlM_cons] at accepted read
      cases first : parseLine found line with
      | error message =>
          rw [first] at accepted
          cases accepted
      | ok middle =>
          rw [first] at accepted
          rw [Option.bind_eq_bind, Option.bind_eq_some_iff] at read
          rcases read with ⟨extended, step, read⟩
          have reads := reads_of_parseLine first
          rcases ih accepted read with ⟨plain_or, apart⟩
          refine ⟨?_, fun strays => apart (strays.step reads step)⟩
          rcases reads.plain_or_strays step with isPlain | strays
          · exact plain_or.imp_left fun plain => List.forall_mem_cons.mpr ⟨isPlain, plain⟩
          · exact .inr (apart strays)

/-- What the controller accepts is within the grammar of one-line entries. -/
theorem Reads.oneLine (reads : Reads found line after) : Toml.OneLine line := by
  cases reads with
  | blank gaps => exact .blank gaps
  | comment blanks isComment =>
      rw [isComment]
      exact .comment blanks
  | bind entry fresh quoted => exact oneLine_quoted entry isBareKey_bind quoted (by decide) (by decide)
  | port entry fresh number range =>
      rcases number_of_fromCharsAll number with ⟨nonempty, digits, -, -⟩
      cases entry with
      | mk blanks gaps spaces tails =>
          rw [← List.append_assoc]
          exact .number blanks isBareKey_port gaps spaces ⟨nonempty, digits⟩ tails
  | token entry fresh quoted noQuote plain length =>
      exact oneLine_quoted entry isBareKey_bearerToken quoted noQuote (by
        rintro rfl
        exact absurd length.1 (by decide))

theorem oneLines_of_foldlM {lines : List (List UInt8)}
    (accepted : lines.foldlM parseLine found = .ok after) : ∀ line ∈ lines, Toml.OneLine line := by
  induction lines generalizing found with
  | nil => exact fun line member => absurd member List.not_mem_nil
  | cons line lines ih =>
      rw [List.foldlM_cons] at accepted
      cases first : parseLine found line with
      | error message =>
          rw [first] at accepted
          cases accepted
      | ok middle =>
          rw [first] at accepted
          exact List.forall_mem_cons.mpr ⟨(reads_of_parseLine first).oneLine, ih accepted⟩

end Lines

end X64dbgMcp.Settings
