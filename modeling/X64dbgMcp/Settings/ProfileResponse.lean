import X64dbgMcp.Settings.ProfileUpdate

/-!
# Changing the profile on disk

The plugin replaces the configuration of ScyllaHide and reads it back.  A profile that is
not readable is reported as a failed write, and has been written by then.
-/

namespace X64dbgMcp.Settings

open Text

section Answers

variable {calls : ProfileCalls} {action : ProfileAction} {file : Option (List UInt8)}

end Answers

end X64dbgMcp.Settings
