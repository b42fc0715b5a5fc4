import X64dbgMcp.Settings.Agreement
import X64dbgMcp.Transition.EarlyExit

/-!
# Where the controller and the sidecar agree

A text that the controller accepts is loaded by the sidecar with the same address, port
and token exactly when its lines mean the same to both readers.
-/

namespace X64dbgMcp.Settings

open Text
open Transition (bind_eq_ok)

section Loading

variable {sources : Sources} {table : Toml.Table} {found : Found}

theorem field_of_none {α : Type} {name : String} {read : Toml.Value → Option α}
    (missing : table.lookup (utf8 name) = none) : field table name read = some none := by
  rw [field, missing]

theorem field_of_some {α : Type} {name : String} {read : Toml.Value → Option α}
    {value : Toml.Value} {result : α} (held : table.lookup (utf8 name) = some value)
    (reads : read value = some result) : field table name read = some (some result) := by
  rw [field, held]
  simp [reads]

theorem lookup_of_unknown {name : List UInt8} {known : List (List UInt8)}
    (keys : ∀ entry ∈ table, entry.1 ∈ known) (foreign : name ∉ known) :
    table.lookup name = none := by
  rw [List.lookup_eq_none_iff]
  intro entry member
  rw [bne_iff_ne]
  rintro rfl
  exact foreign (keys entry member)

/-- A table that mirrors what the controller has found sets three fields. -/
theorem ofTable_of_mirrors {bind token : List UInt8} {port usizeLimit : Nat}
    (mirrors : Mirrors table { bind := some bind, port := some port, token := some token })
    (small : port < 2 ^ 16) :
    FileConfig.ofTable usizeLimit table =
      some { bind := some bind, port := some port, bearerToken := some token } := by
  have known : table.all (fun entry => fieldNames.contains entry.1) = true := by
    rw [List.all_eq_true]
    intro entry member
    have key := mirrors.keys entry member
    simp only [List.mem_cons, List.not_mem_nil, or_false] at key
    rcases key with same | same | same <;> rw [same] <;> decide
  have missing := fun name foreign => @lookup_of_unknown table name _ mirrors.keys foreign
  have number : asUnsigned (2 ^ 16) (.integer port) = some port := by
    rw [asUnsigned, if_pos (by omega), Int.toNat_natCast]
  rw [FileConfig.ofTable, if_pos known]
  simp only [field_of_some mirrors.bind (rfl : asText _ = _), field_of_some mirrors.port number,
    field_of_some mirrors.token (rfl : asText _ = _),
    field_of_none (missing (utf8 "max_body_bytes") (by decide)),
    field_of_none (missing (utf8 "max_inflight") (by decide)),
    field_of_none (missing (utf8 "max_output_bytes") (by decide)),
    field_of_none (missing (utf8 "request_timeout_ms") (by decide)),
    field_of_none (missing (utf8 "mutation_timeout_ms") (by decide)),
    field_of_none (missing (utf8 "shutdown_timeout_ms") (by decide)),
    field_of_none (missing (utf8 "max_header_count") (by decide)),
    field_of_none (missing (utf8 "max_header_bytes") (by decide)),
    field_of_none (missing (utf8 "max_requests_per_second") (by decide)),
    field_of_none (missing (utf8 "allowed_origins") (by decide)),
    field_of_none (missing (utf8 "log_directory") (by decide)),
    field_of_none (missing (utf8 "log_backup_count") (by decide)), Option.bind_eq_bind,
    Option.bind_some, Option.pure_def]

/-- What a token in the file has been in the table. -/
theorem bearerToken_of_ofTable {usizeLimit : Nat} {file : FileConfig} {token : List UInt8}
    (reads : FileConfig.ofTable usizeLimit table = some file)
    (held : file.bearerToken = some token) :
    table.lookup (utf8 "bearer_token") = some (.string token) := by
  rw [FileConfig.ofTable] at reads
  split_ifs at reads with known
  iterate 2 rcases Option.bind_eq_some_iff.mp reads with ⟨_, -, reads⟩
  rcases Option.bind_eq_some_iff.mp reads with ⟨bearerToken, isField, reads⟩
  iterate 12 rcases Option.bind_eq_some_iff.mp reads with ⟨_, -, reads⟩
  cases reads
  subst held
  rw [field] at isField
  split at isField
  · cases isField
  · rename_i value isValue
    rw [isValue]
    rw [Option.map_eq_some_iff] at isField
    rcases isField with ⟨text, isText, same⟩
    cases same
    cases value with
    | string bytes =>
        cases isText
        rfl
    | integer value => cases isText
    | array items => cases isText
    | other => cases isText

theorem parseLimit_default (bare : ∀ name, sources.env name = none) {name : String}
    {default hardMax : Nat} (fits : 0 < default ∧ default ≤ hardMax) :
    parseLimit sources name default hardMax = .ok default := by
  rw [parseLimit, Sources.var, bare]
  exact if_pos fits

/-- A configuration whose other settings are the defaults. -/
def minimalConfig (port : Nat) (token : List UInt8) : Config where
  bind := .v4 127 0 0 1
  port := port
  bearerToken := token
  maxBodyBytes := 1024 * 1024
  maxInflight := 8
  maxOutputBytes := 1024 * 1024
  maxHeaderCount := 64
  maxHeaderBytes := 32 * 1024
  maxRequestsPerSecond := 100
  logDirectory := none
  logBackupCount := 5
  requestTimeoutMs := 10000
  mutationTimeoutMs := 30000
  shutdownTimeoutMs := 10000
  allowedOrigins := []

theorem parseIp_localhost : parseIp sources (utf8 "127.0.0.1") = some (.v4 127 0 0 1) := by
  have host : parseIpv4 (utf8 "127.0.0.1") = some (.v4 127 0 0 1) := by decide
  rw [parseIp, host, Option.some_or]

/-- Without an environment a file with the three fields is loaded as it stands. -/
theorem fromSources_minimal (bare : ∀ name, sources.env name = none) {token : List UInt8}
    {port : Nat} (positive : port ≠ 0) (long : 32 ≤ token.length) :
    fromSources sources
        { bind := some (utf8 "127.0.0.1"), port := some port, bearerToken := some token } =
      .ok (minimalConfig port token) := by
  have unset : ∀ name, sources.var name = none := fun name => by rw [Sources.var, bare]; rfl
  have nonzero : (some port).filter (· != 0) = some port := by simp [positive]
  have bounded : (some token).filter (fun token => decide (32 ≤ token.length)) = some token := by
    simp [long]
  have origins : parseOrigins sources [] = .ok [] := by
    rw [parseOrigins, bare]
    rfl
  have limits := fun name default hardMax => @parseLimit_default sources bare name default hardMax
  rw [fromSources]
  simp only [unset, Option.none_or, Option.getD_some, parseIp_localhost, Option.bind_none, nonzero,
    bounded, Option.getD_none, origins, limits _ (1024 * 1024) (4 * 1024 * 1024) (by decide),
    limits _ 8 32 (by decide), limits _ 10000 30000 (by decide), limits _ 30000 120000 (by decide),
    limits _ 64 128 (by decide), limits _ (32 * 1024) (64 * 1024) (by decide),
    limits _ 100 1000 (by decide), limits _ 5 100 (by decide)]
  rfl

/-- What the sidecar expects comes from its file. -/
theorem bearerToken_of_fromSources (bare : ∀ name, sources.env name = none) {file : FileConfig}
    {config : Config} (loads : fromSources sources file = .ok config) :
    file.bearerToken = some config.bearerToken := by
  have unset : ∀ name, sources.var name = none := fun name => by rw [Sources.var, bare]; rfl
  rw [fromSources] at loads
  simp only [unset, Option.none_or] at loads
  rcases bind_eq_ok.mp loads with ⟨bind, -, loads⟩
  split_ifs at loads with remote
  rcases bind_eq_ok.mp loads with ⟨port, -, loads⟩
  rcases bind_eq_ok.mp loads with ⟨token, isToken, loads⟩
  iterate 11 rcases bind_eq_ok.mp loads with ⟨_, -, loads⟩
  cases loads
  rcases held : file.bearerToken with _ | ⟨bytes⟩
  · rw [held] at isToken
    cases isToken
  · rw [held, Option.filter_some] at isToken
    split_ifs at isToken with long
    · cases isToken
      rfl
    · cases isToken

end Loading

/-! ## Both readers -/

theorem found_of_parseServerConfig {text : List UInt8} {config : ServerConfig}
    (accepted : parseServerConfig text = .ok config) :
    (Toml.lines text).foldlM parseLine {} =
      .ok { bind := some config.bind, port := some config.port, token := some config.bearerToken } := by
  rw [parseServerConfig] at accepted
  split_ifs at accepted with outside
  rw [not_or] at outside
  rw [foldlM_lines (by simpa using outside.1)] at accepted
  rcases bind_eq_ok.mp accepted with ⟨found, folded, accepted⟩
  rw [folded]
  split at accepted
  · cases accepted
    rfl
  · cases accepted

/-- What the checks of single lines say about the whole. -/
structure Sound (found : Found) : Prop where
  bind : ∀ bind ∈ found.bind, bind = utf8 "127.0.0.1"
  port : ∀ port ∈ found.port, port ≠ 0 ∧ port ≤ 65535
  token : ∀ token ∈ found.token, 32 ≤ token.length

theorem Reads.sound {found after : Found} {line : List UInt8} (reads : Reads found line after)
    (sound : Sound found) : Sound after := by
  cases reads with
  | blank _ => exact sound
  | comment _ _ => exact sound
  | bind _ _ _ => exact { sound with bind := fun _ same => (Option.some.inj same).symm }
  | port _ _ _ range =>
      refine { sound with port := fun _ same => ?_ }
      cases same
      exact range
  | token _ _ _ _ _ length =>
      refine { sound with token := fun _ same => ?_ }
      cases same
      exact length.1

theorem sound_foldlM {found after : Found} {lines : List (List UInt8)}
    (accepted : lines.foldlM parseLine found = .ok after) (sound : Sound found) : Sound after := by
  induction lines generalizing found with
  | nil =>
      cases accepted
      exact sound
  | cons line lines ih =>
      rw [List.foldlM_cons] at accepted
      rcases bind_eq_ok.mp accepted with ⟨middle, first, accepted⟩
      exact ih accepted ((reads_of_parseLine first).sound sound)

/-- The sidecar loads what the controller has read if and only if the text means the same
to both: it is UTF-8, its carriage returns stand before line feeds, its comments have no
control characters, and there is no escape and no leading zero. -/
theorem loadFrom_agrees_iff {sources : Sources} (bare : ∀ name, sources.env name = none)
    (rules : Toml.Rules sources.toml) {text : List UInt8} {config : ServerConfig}
    (accepted : parseServerConfig text = .ok config) (isExplicit : Bool) :
    (∃ loaded, loadFrom sources isExplicit (.contents text) = .ok loaded ∧
        Agrees sources config loaded) ↔ Coincides text := by
  have folded := found_of_parseServerConfig accepted
  have oneLines := oneLines_of_foldlM folded
  have sound := sound_foldlM folded ⟨by simp, by simp, by simp⟩
  constructor
  · rintro ⟨loaded, loads, agrees⟩
    rw [loadFrom] at loads
    split_ifs at loads with characters
    rcases bind_eq_ok.mp loads with ⟨file, isFile, loads⟩
    rw [rules.oneLines text characters oneLines] at isFile
    rcases read : Toml.document text with _ | ⟨table⟩
    · rw [read] at isFile
      cases isFile
    · rw [read, Option.bind_some] at isFile
      rcases isTable : FileConfig.ofTable sources.usizeLimit table with _ | ⟨held⟩
      · rw [isTable] at isFile
        cases isFile
      · rw [isTable] at isFile
        cases isFile
        have token := bearerToken_of_ofTable isTable (bearerToken_of_fromSources bare loads)
        rw [agrees.bearerToken] at token
        rcases (plain_or_strays_foldlM folded read).1 with plain | ⟨held, found, inTable, same, other⟩
        · exact ⟨characters, plain⟩
        · rw [token] at inTable
          cases inTable
          cases same
          exact absurd rfl other
  · rintro ⟨characters, plain⟩
    have start : Mirrors [] {} := ⟨rfl, rfl, rfl, by simp⟩
    rcases foldlM_extend folded plain start with ⟨table, read, mirrors⟩
    have host := sound.bind config.bind rfl
    rcases sound.port config.port rfl with ⟨positive, small⟩
    have file := @ofTable_of_mirrors table _ _ _ sources.usizeLimit mirrors (by omega)
    have document : sources.toml text = some table := by
      rw [rules.oneLines text characters oneLines]
      exact read
    refine ⟨minimalConfig config.port config.bearerToken, ?_, ?_, rfl, rfl⟩
    · rw [loadFrom, if_pos characters, document, Option.bind_some, file, host]
      exact fromSources_minimal bare positive (sound.token _ rfl)
    · rw [host]
      exact parseIp_localhost

/-- A sidecar without an environment that goes by the grammar. -/
def plainSources : Sources where
  env _ := none
  toml := Toml.document
  parseIpv6 _ := none
  usizeLimit := 2 ^ 64

/-- The file that is written at the installation. -/
def installedText : List UInt8 :=
  utf8 "# x64\r\nbind = \"127.0.0.1\"\r\nport = 43164\r\nbearer_token = \"0123456789abcdef0123456789abcdef\"\r\n"

theorem loadFrom_agrees_installed :
    ∃ loaded, loadFrom plainSources true (.contents installedText) = .ok loaded ∧
      Agrees plainSources
        { bind := utf8 "127.0.0.1", port := 43164,
          bearerToken := utf8 "0123456789abcdef0123456789abcdef" } loaded := by
  have accepted : parseServerConfig installedText =
      .ok { bind := utf8 "127.0.0.1", port := 43164,
            bearerToken := utf8 "0123456789abcdef0123456789abcdef" } := by
    rfl
  exact (loadFrom_agrees_iff (fun _ => rfl) ⟨fun _ _ _ => rfl⟩ accepted true).mpr
    ⟨by decide +kernel, by decide +kernel⟩

/-- A token with an escape for its first character. -/
def escapedText : List UInt8 :=
  utf8 "bind = \"127.0.0.1\"\nport = 43164\nbearer_token = \"\\u0030123456789abcdef0123456789abcdef\"\n"

/-- What the controller takes an escaped token for. -/
def escapedConfig : ServerConfig where
  bind := utf8 "127.0.0.1"
  port := 43164
  bearerToken := utf8 "\\u0030123456789abcdef0123456789abcdef"

/-- The controller shows the escape, and the sidecar expects the character. -/
theorem escaped_token_parts :
    parseServerConfig escapedText = .ok escapedConfig ∧
      ¬∃ loaded, loadFrom plainSources true (.contents escapedText) = .ok loaded ∧
        Agrees plainSources escapedConfig loaded := by
  have expected : (loadFrom plainSources true (.contents escapedText)).map Config.bearerToken =
      .ok (utf8 "0123456789abcdef0123456789abcdef") := by
    rfl
  refine ⟨rfl, ?_⟩
  rintro ⟨loaded, loads, agrees⟩
  rw [loads] at expected
  have same : loaded.bearerToken = utf8 "0123456789abcdef0123456789abcdef" :=
    Except.ok.inj expected
  rw [agrees.bearerToken] at same
  revert same
  decide

end X64dbgMcp.Settings
