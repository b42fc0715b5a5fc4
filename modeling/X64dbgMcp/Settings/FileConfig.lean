import X64dbgMcp.Text.Toml

/-!
# The configuration as the sidecar loads it

The sidecar reads its file as TOML into optional fields, puts the environment over
them, and checks what comes out.  The environment, the reader of TOML and the reader of
IPv6 addresses are parameters.
-/

namespace X64dbgMcp.Settings

open Text

/-- An address to listen on. -/
inductive IpAddr where
  | v4 (first second third fourth : Nat)
  | v6 (segments : List Nat)
  deriving DecidableEq

/-- The address reaches only this machine. -/
def IpAddr.isLoopback : IpAddr → Bool
  | .v4 first _ _ _ => first == 127
  | .v6 segments => segments == [0, 0, 0, 0, 0, 0, 0, 1]

/-- A part of an IPv4 address: up to three digits without a leading zero. -/
def octet (digits : List UInt8) : Option Nat :=
  if digits.length ≤ 3 ∧ ¬(digits.head? = some 0x30 ∧ 1 < digits.length) then
    fromCharsAll 10 256 digits
  else none

/-- Read an address of four numbers. -/
def parseIpv4 (text : List UInt8) : Option IpAddr :=
  match (text.splitOn 0x2e).map octet with
  | [some first, some second, some third, some fourth] => some (.v4 first second third fourth)
  | _ => none

/-- Why a configuration is refused. -/
inductive ConfigError where
  | invalidBind
  | nonLoopbackBind
  | invalidPort
  | invalidToken
  | invalidLimit (name : String) (hardMax : Nat)
  | invalidOrigins
  | invalidFile
  deriving DecidableEq

/-- What the file sets. -/
structure FileConfig where
  bind : Option (List UInt8) := none
  port : Option Nat := none
  bearerToken : Option (List UInt8) := none
  maxBodyBytes : Option Nat := none
  maxInflight : Option Nat := none
  maxOutputBytes : Option Nat := none
  requestTimeoutMs : Option Nat := none
  mutationTimeoutMs : Option Nat := none
  shutdownTimeoutMs : Option Nat := none
  maxHeaderCount : Option Nat := none
  maxHeaderBytes : Option Nat := none
  maxRequestsPerSecond : Option Nat := none
  allowedOrigins : Option (List (List UInt8)) := none
  logDirectory : Option (List UInt8) := none
  logBackupCount : Option Nat := none

/-- The configuration of the server. -/
structure Config where
  bind : IpAddr
  port : Nat
  bearerToken : List UInt8
  maxBodyBytes : Nat
  maxInflight : Nat
  maxOutputBytes : Nat
  maxHeaderCount : Nat
  maxHeaderBytes : Nat
  maxRequestsPerSecond : Nat
  logDirectory : Option (List UInt8)
  logBackupCount : Nat
  requestTimeoutMs : Nat
  mutationTimeoutMs : Nat
  shutdownTimeoutMs : Nat
  allowedOrigins : List (List UInt8)

/-! ## From TOML -/

/-- The fields that the file may have. -/
def fieldNames : List (List UInt8) :=
  ["bind", "port", "bearer_token", "max_body_bytes", "max_inflight", "max_output_bytes",
    "request_timeout_ms", "mutation_timeout_ms", "shutdown_timeout_ms", "max_header_count",
    "max_header_bytes", "max_requests_per_second", "allowed_origins", "log_directory",
    "log_backup_count"].map utf8

/-- A value that is a text. -/
def asText : Toml.Value → Option (List UInt8)
  | .string bytes => some bytes
  | _ => none

/-- A value that is a number in its bounds. -/
def asUnsigned (limit : Nat) : Toml.Value → Option Nat
  | .integer value => if 0 ≤ value ∧ value < limit then some value.toNat else none
  | _ => none

/-- A value that is a list of texts. -/
def asTexts : Toml.Value → Option (List (List UInt8))
  | .array items => items.mapM asText
  | _ => none

/-- A field that may be missing but not of another type. -/
def field {α : Type} (table : Toml.Table) (name : String) (read : Toml.Value → Option α) :
    Option (Option α) :=
  match table.lookup (utf8 name) with
  | none => some none
  | some value => (read value).map some

/-- `Deserialize` of a file; `usizeLimit` bounds the sizes of the platform. -/
def FileConfig.ofTable (usizeLimit : Nat) (table : Toml.Table) : Option FileConfig :=
  if table.all (fun entry => fieldNames.contains entry.1) then do
    let size := fun name => field table name (asUnsigned usizeLimit)
    pure
      { bind := ← field table "bind" asText
        port := ← field table "port" (asUnsigned (2 ^ 16))
        bearerToken := ← field table "bearer_token" asText
        maxBodyBytes := ← size "max_body_bytes"
        maxInflight := ← size "max_inflight"
        maxOutputBytes := ← size "max_output_bytes"
        requestTimeoutMs := ← size "request_timeout_ms"
        mutationTimeoutMs := ← size "mutation_timeout_ms"
        shutdownTimeoutMs := ← size "shutdown_timeout_ms"
        maxHeaderCount := ← size "max_header_count"
        maxHeaderBytes := ← size "max_header_bytes"
        maxRequestsPerSecond := ← size "max_requests_per_second"
        allowedOrigins := ← field table "allowed_origins" asTexts
        logDirectory := ← field table "log_directory" asText
        logBackupCount := ← size "log_backup_count" }
  else none

/-! ## From the sources -/

/-- What the sidecar is given from outside: `env::var` and the texts it is for, and the
functions of the libraries. -/
structure Sources where
  env : String → Option String
  toml : List UInt8 → Option Toml.Table
  parseIpv6 : List UInt8 → Option IpAddr
  usizeLimit : Nat

section

variable (sources : Sources)

/-- A variable of the environment. -/
def Sources.var (name : String) : Option (List UInt8) :=
  (sources.env name).map utf8

/-- Read an address to listen on. -/
def parseIp (text : List UInt8) : Option IpAddr :=
  (parseIpv4 text).or (sources.parseIpv6 text)

/-- `White_Space` -/
def isWhiteSpace (character : Char) : Bool :=
  let point := character.toNat
  (0x09 ≤ point && point ≤ 0x0d) || point == 0x20 || point == 0x85 || point == 0xa0 ||
    point == 0x1680 || (0x2000 ≤ point && point ≤ 0x200a) || point == 0x2028 || point == 0x2029 ||
    point == 0x202f || point == 0x205f || point == 0x3000

/-- A text without white space around it. -/
def trimText (characters : List Char) : List Char :=
  (characters.dropWhile isWhiteSpace).reverse.dropWhile isWhiteSpace |>.reverse

/-- The origins from the environment, or the default. -/
def parseOrigins (default : List (List UInt8)) : Except ConfigError (List (List UInt8)) :=
  let origins :=
    match sources.env "X64DBG_MCP_ALLOWED_ORIGINS" with
    | some value =>
        (value.toList.splitOn ',').map fun origin => utf8 (String.ofList (trimText origin))
    | none => default
  if 16 < origins.length ∨ origins.any (fun origin =>
      origin.isEmpty || decide (256 < origin.length) || !origin.all (· < 0x80)) = true then
    .error .invalidOrigins
  else .ok origins

/-- A limit from the environment, or the default. -/
def parseLimit (name : String) (default hardMax : Nat) : Except ConfigError Nat :=
  let value :=
    match sources.var name with
    | some text => fromStrRadix 10 sources.usizeLimit text
    | none => some default
  match value with
  | some value => if 0 < value ∧ value ≤ hardMax then .ok value else .error (.invalidLimit name hardMax)
  | none => .error (.invalidLimit name hardMax)

/-- The value, or the error if there is none. -/
def orError {α : Type} (value : Option α) (error : ConfigError) : Except ConfigError α :=
  match value with
  | some value => .ok value
  | none => .error error

/-- The configuration from the file and the environment. -/
def fromSources (file : FileConfig) : Except ConfigError Config := do
  let bind ← orError
    (parseIp sources (((sources.var "X64DBG_MCP_BIND").or file.bind).getD (utf8 "127.0.0.1")))
    .invalidBind
  if !bind.isLoopback then .error .nonLoopbackBind
  else do
    let port ← orError
      ((((sources.var "X64DBG_MCP_PORT").bind (fromStrRadix 10 (2 ^ 16))).or file.port).filter
        (· != 0)) .invalidPort
    let bearerToken ← orError
      (((sources.var "X64DBG_MCP_TOKEN").or file.bearerToken).filter fun token =>
        decide (32 ≤ token.length)) .invalidToken
    let maxBodyBytes ← parseLimit sources "X64DBG_MCP_MAX_BODY_BYTES"
      (file.maxBodyBytes.getD (1024 * 1024)) (4 * 1024 * 1024)
    let maxInflight ← parseLimit sources "X64DBG_MCP_MAX_INFLIGHT" (file.maxInflight.getD 8) 32
    let requestTimeoutMs ← parseLimit sources "X64DBG_MCP_REQUEST_TIMEOUT_MS"
      (file.requestTimeoutMs.getD 10000) 30000
    let mutationTimeoutMs ← parseLimit sources "X64DBG_MCP_MUTATION_TIMEOUT_MS"
      (file.mutationTimeoutMs.getD 30000) 120000
    let shutdownTimeoutMs ← parseLimit sources "X64DBG_MCP_SHUTDOWN_TIMEOUT_MS"
      (file.shutdownTimeoutMs.getD 10000) 30000
    let maxOutputBytes ← parseLimit sources "X64DBG_MCP_MAX_OUTPUT_BYTES"
      (file.maxOutputBytes.getD (1024 * 1024)) (4 * 1024 * 1024)
    let allowedOrigins ← parseOrigins sources (file.allowedOrigins.getD [])
    let maxHeaderCount ← parseLimit sources "X64DBG_MCP_MAX_HEADER_COUNT"
      (file.maxHeaderCount.getD 64) 128
    let maxHeaderBytes ← parseLimit sources "X64DBG_MCP_MAX_HEADER_BYTES"
      (file.maxHeaderBytes.getD (32 * 1024)) (64 * 1024)
    let maxRequestsPerSecond ← parseLimit sources "X64DBG_MCP_MAX_REQUESTS_PER_SECOND"
      (file.maxRequestsPerSecond.getD 100) 1000
    let logBackupCount ← parseLimit sources "X64DBG_MCP_LOG_BACKUP_COUNT"
      (file.logBackupCount.getD 5) 100
    pure
      { bind := bind
        port := port
        bearerToken := bearerToken
        maxBodyBytes := maxBodyBytes
        maxInflight := maxInflight
        maxOutputBytes := maxOutputBytes
        maxHeaderCount := maxHeaderCount
        maxHeaderBytes := maxHeaderBytes
        maxRequestsPerSecond := maxRequestsPerSecond
        logDirectory := (sources.var "X64DBG_MCP_LOG_DIRECTORY").or file.logDirectory
        logBackupCount := logBackupCount
        requestTimeoutMs := requestTimeoutMs
        mutationTimeoutMs := mutationTimeoutMs
        shutdownTimeoutMs := shutdownTimeoutMs
        allowedOrigins := allowedOrigins }

/-- `fs::read_to_string` of the file. -/
inductive FileRead where
  | notFound
  | failed
  | contents (bytes : List UInt8)

/-- `Config::load_from`; a file that was asked for has to be there. -/
def loadFrom (isExplicit : Bool) (file : FileRead) : Except ConfigError Config :=
  match file with
  | .contents bytes =>
      if fromUtf8 bytes = .valid then do
        let config ← orError ((sources.toml bytes).bind (FileConfig.ofTable sources.usizeLimit))
          .invalidFile
        fromSources sources config
      else .error .invalidFile
  | .notFound => if isExplicit then .error .invalidFile else fromSources sources {}
  | .failed => .error .invalidFile

end

end X64dbgMcp.Settings
