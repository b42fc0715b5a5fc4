import X64dbgMcp.Settings.ServerConfig
import X64dbgMcp.Text.Utf8

/-!
# The profiles of ScyllaHide

The configuration of ScyllaHide is read by one function, and its current profile is set
by another that goes over the lines for itself.  A line is kept as a place in the text:
what stands before its content, the content, and what stands behind it, line ending
included.
-/

namespace X64dbgMcp.Settings

open Text

/-- `std::tolower` in the C locale. -/
def toLower (byte : UInt8) : UInt8 :=
  if 0x41 ≤ byte && byte ≤ 0x5a then byte + 0x20 else byte

/-- The texts are the same up to case. -/
def equalInsensitive (left right : List UInt8) : Bool :=
  left.map toLower == right.map toLower

/-- A line with the blanks around its content. -/
structure Line where
  before : List UInt8
  content : List UInt8
  after : List UInt8
  deriving DecidableEq

/-- A line without the carriage return at its end. -/
def lineAt (before piece after : List UInt8) : Line :=
  if piece.getLast? = some 0x0d then ⟨before, piece.dropLast, 0x0d :: after⟩
  else ⟨before, piece, after⟩

/-- The lines from a place on, with the piece that has been passed since. -/
def linesFrom (before piece : List UInt8) : List UInt8 → List Line
  | [] => if piece.isEmpty then [] else [lineAt before piece []]
  | byte :: rest =>
      if byte = 0x0a then
        lineAt before piece (0x0a :: rest) :: linesFrom (before ++ piece ++ [0x0a]) [] rest
      else linesFrom before (piece ++ [byte]) rest

attribute [grind =] linesFrom

/-- `Lines`, with the places of the lines. -/
def placedLines (text : List UInt8) : List Line :=
  if text.isEmpty then [⟨[], [], []⟩] else linesFrom [] [] text

/-- The name in a line between brackets. -/
def sectionName (content : List UInt8) : Option (List UInt8) :=
  if 2 ≤ content.length ∧ content.head? = some 0x5b ∧ content.getLast? = some 0x5d then
    some ((content.drop 1).take (content.length - 2))
  else none

/-- The section that names the current profile. -/
def settingsSection : List UInt8 :=
  utf8 "SETTINGS"

/-- The value that a line of a section gives to `CurrentProfile`. -/
def currentProfileValue (currentSection content : List UInt8) : Option (List UInt8) :=
  if equalInsensitive currentSection settingsSection ∧ 0x3d ∈ content ∧
      equalInsensitive (trim (content.takeWhile (· != 0x3d))) (utf8 "CurrentProfile") then
    some (trim (content.dropWhile (· != 0x3d)).tail)
  else none

/-- The longest file. -/
def maxConfigBytes : Nat := 1024 * 1024

/-- The check of the text that both functions begin with. -/
def configWithinBound (text : List UInt8) : Bool :=
  !(text.isEmpty || maxConfigBytes < text.length || text.contains 0x00)

/-- The file with another current profile. -/
structure ProfileUpdate where
  text : List UInt8
  canonicalProfile : List UInt8
  deriving DecidableEq

/-- The profiles of a file. -/
structure ScyllaHideConfig where
  currentProfile : List UInt8
  availableProfiles : List (List UInt8)
  deriving DecidableEq

/-! ## Setting the profile -/

/-- What the lines so far have shown to the writer. -/
structure UpdateScan where
  currentSection : List UInt8 := []
  currentProfileLine : Option Line := none
  canonicalProfile : Option (List UInt8) := none

/-- One line of the scan for an update. -/
def updateLine (requestedProfile : List UInt8) (scan : UpdateScan) (line : Line) :
    Except String UpdateScan :=
  let content := trim line.content
  match sectionName content with
  | some name =>
      .ok
        { scan with
          currentSection := name
          canonicalProfile :=
            if equalInsensitive name requestedProfile then some name else scan.canonicalProfile }
  | none =>
      if (currentProfileValue scan.currentSection content).isSome then
        if scan.currentProfileLine.isSome then
          .error "ScyllaHide config repeats CurrentProfile"
        else .ok { scan with currentProfileLine := some line }
      else .ok scan

/-- A name that may be asked for. -/
def validProfileName (requestedProfile : List UInt8) : Bool :=
  !(requestedProfile.isEmpty || 128 < requestedProfile.length || hasControl requestedProfile ||
    requestedProfile.head? == some 0x5b || requestedProfile.contains 0x5d)

/-- The line that names the current profile. -/
def replacement (canonicalProfile : List UInt8) : List UInt8 :=
  utf8 "CurrentProfile=" ++ canonicalProfile

/-- Name another current profile in a file. -/
def setScyllaHideProfile (text requestedProfile : List UInt8) : Except String ProfileUpdate :=
  if !configWithinBound text then .error "ScyllaHide config is empty or exceeds its bound"
  else if !validProfileName requestedProfile then .error "profile name is invalid"
  else do
    let scan ← (placedLines text).foldlM (updateLine requestedProfile) {}
    match scan.canonicalProfile, scan.currentProfileLine with
    | none, _ => .error "requested ScyllaHide profile section does not exist"
    | some _, none => .error "ScyllaHide SETTINGS.CurrentProfile is missing"
    | some canonicalProfile, some line =>
        .ok
          { text := line.before ++ replacement canonicalProfile ++ line.after
            canonicalProfile := canonicalProfile }

/-! ## Reading the profile -/

/-- What the lines so far have shown to the reader. -/
structure ConfigScan where
  currentSection : List UInt8 := []
  currentProfile : Option (List UInt8) := none
  profiles : List (List UInt8) := []

/-- One line of the scan for the profiles. -/
def configLine (scan : ConfigScan) (line : Line) : Except String ConfigScan :=
  let content := trim line.content
  match sectionName content with
  | some name =>
      if equalInsensitive name settingsSection then .ok { scan with currentSection := name }
      else if name.isEmpty || 128 < name.length || 128 ≤ scan.profiles.length ||
          hasControl name then
        .error "ScyllaHide profile catalog exceeds its bound"
      else .ok { scan with currentSection := name, profiles := scan.profiles ++ [name] }
  | none =>
      match currentProfileValue scan.currentSection content with
      | some value =>
          if scan.currentProfile.isSome then .error "ScyllaHide config repeats CurrentProfile"
          else .ok { scan with currentProfile := some value }
      | none => .ok scan

/-- Read the profiles of a file. -/
def parseScyllaHideConfig (text : List UInt8) : Except String ScyllaHideConfig :=
  if !configWithinBound text then .error "ScyllaHide config is empty or exceeds its bound"
  else do
    let scan ← (placedLines text).foldlM configLine {}
    match scan.currentProfile with
    | none => .error "ScyllaHide SETTINGS.CurrentProfile is missing"
    | some currentProfile =>
        if currentProfile.isEmpty then .error "ScyllaHide SETTINGS.CurrentProfile is missing"
        else
          match scan.profiles.find? fun profile => equalInsensitive profile currentProfile with
          | none => .error "ScyllaHide CurrentProfile does not name an available profile"
          | some selected =>
              .ok
                { currentProfile := selected
                  availableProfiles := scan.profiles }

end X64dbgMcp.Settings
