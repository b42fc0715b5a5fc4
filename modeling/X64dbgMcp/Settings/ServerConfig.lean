import Mathlib.Data.List.DropRight
import X64dbgMcp.Text.Numeral

/-!
# The configuration as the controller reads it

The controller takes the address, the port and the token of the sidecar from the same
file, with a reader of its own that goes line by line and knows three keys.
-/

namespace X64dbgMcp.Settings

open Text

/-- What the controller reads from the file. -/
structure ServerConfig where
  bind : List UInt8
  port : Nat
  bearerToken : List UInt8

/-- A space or a tab. -/
def isBlank (byte : UInt8) : Bool :=
  byte == 0x20 || byte == 0x09

/-- The same or a carriage return. -/
def isTrailing (byte : UInt8) : Bool :=
  byte == 0x20 || byte == 0x09 || byte == 0x0d

/-- A text without blanks around it. -/
def trim (value : List UInt8) : List UInt8 :=
  (value.dropWhile isBlank).rdropWhile isTrailing

/-- A control character is in the text. -/
def hasControl (value : List UInt8) : Bool :=
  value.any fun byte => byte < 0x20 || byte == 0x7f

/-- The text between double quotes. -/
def quotedValue (value : List UInt8) : Option (List UInt8) :=
  let trimmed := trim value
  if trimmed.length < 2 ∨ trimmed.head? ≠ some 0x22 ∨ trimmed.getLast? ≠ some 0x22 then none
  else
    let body := (trimmed.drop 1).take (trimmed.length - 2)
    if body.isEmpty ∨ 0x22 ∈ body ∨ hasControl body = true then none else some body

/-- The carriage return at the end of a line does not belong to its content. -/
def withoutReturn (line : List UInt8) : List UInt8 :=
  if line.getLast? = some 0x0d then line.dropLast else line

/-- The contents of the lines.  Nothing follows a line feed at the end of the text. -/
def lines (text : List UInt8) : List (List UInt8) :=
  if text.isEmpty then [[]]
  else
    let pieces := text.splitOn 0x0a
    (if pieces.getLast? = some [] then pieces.dropLast else pieces).map withoutReturn

/-- What the lines so far have set. -/
structure Found where
  bind : Option (List UInt8) := none
  port : Option Nat := none
  token : Option (List UInt8) := none

/-- Read the address to listen on. -/
def parseBind (found : Found) (value : List UInt8) : Except String Found :=
  if found.bind.isSome then .error "server config repeats bind"
  else
    match quotedValue value with
    | some bind =>
        if bind = utf8 "127.0.0.1" then .ok { found with bind := some bind }
        else .error "controller requires bind 127.0.0.1"
    | none => .error "controller requires bind 127.0.0.1"

/-- Read the port. -/
def parsePort (found : Found) (value : List UInt8) : Except String Found :=
  if found.port.isSome then .error "server config repeats port"
  else
    match fromCharsAll 10 (2 ^ 32) value with
    | some parsed =>
        if parsed = 0 ∨ 65535 < parsed then .error "server config port is invalid"
        else .ok { found with port := some parsed }
    | none => .error "server config port is invalid"

/-- Read the token. -/
def parseToken (found : Found) (value : List UInt8) : Except String Found :=
  if found.token.isSome then .error "server config repeats bearer_token"
  else
    match quotedValue value with
    | some token =>
        if token.length < 32 ∨ 4096 < token.length then
          .error "server config bearer_token is invalid"
        else .ok { found with token := some token }
    | none => .error "server config bearer_token is invalid"

/-- The body of the loop over the lines. -/
def parseLine (found : Found) (line : List UInt8) : Except String Found :=
  let content := trim line
  if content.isEmpty ∨ content.head? = some 0x23 then .ok found
  else if 0x3d ∉ content then .error "server config contains a malformed line"
  else
    let key := trim (content.takeWhile (· != 0x3d))
    let value := trim (content.dropWhile (· != 0x3d)).tail
    if key = utf8 "bind" then parseBind found value
    else if key = utf8 "port" then parsePort found value
    else if key = utf8 "bearer_token" then parseToken found value
    else .error "server config contains an unknown field"

/-- Read the file. -/
def parseServerConfig (text : List UInt8) : Except String ServerConfig :=
  if text.isEmpty ∨ 64 * 1024 < text.length ∨ 0x00 ∈ text then
    .error "server config is empty or exceeds its bound"
  else do
    let found ← (lines text).foldlM parseLine {}
    match found with
    | { bind := some bind, port := some port, token := some token } =>
        .ok { bind := bind, port := port, bearerToken := token }
    | _ => .error "server config is missing a required field"

end X64dbgMcp.Settings
