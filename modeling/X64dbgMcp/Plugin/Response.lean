/-!
# Error responses of the plugin
-/

namespace X64dbgMcp.Plugin

/-- `ErrorResponse`, without the identifier of its request.  With `unknown` its
details carry `outcome` as `unknown`. -/
structure ErrorResponse where
  code : String
  message : String
  retryable : Bool
  unknown : Bool
  deriving DecidableEq

end X64dbgMcp.Plugin
