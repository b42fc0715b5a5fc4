import X64dbgMcp.Transition.Execution
import X64dbgMcp.Trace.Policy
import X64dbgMcp.Trace.StopCoordinator
import X64dbgMcp.Trace.Journal
import X64dbgMcp.Trace.Finalisation
import X64dbgMcp.Trace.OneShot
import X64dbgMcp.Runtime.EventLog
import X64dbgMcp.Runtime.State
import X64dbgMcp.Runtime.DebuggerEvent
import X64dbgMcp.Runtime.Snapshot
import X64dbgMcp.Executor.Core
import X64dbgMcp.Executor.Sound
import X64dbgMcp.Executor.Status
import X64dbgMcp.Collection.AssocMap
import X64dbgMcp.Collection.Fields
import X64dbgMcp.Text.Json
import X64dbgMcp.Tools.Catalog
import X64dbgMcp.Ipc.Ledger
import X64dbgMcp.Ipc.ToolError
import X64dbgMcp.Ipc.Frame
import X64dbgMcp.Ipc.Adapter
import X64dbgMcp.Ipc.Stepped
import X64dbgMcp.Ipc.Admission
import X64dbgMcp.Ipc.AtMostOnce
import X64dbgMcp.Ipc.Settlement
import X64dbgMcp.Ipc.Acceptance
import X64dbgMcp.Ipc.Answers
import X64dbgMcp.Ipc.FailClosed
import X64dbgMcp.Ipc.FrameStream
import X64dbgMcp.Ipc.Correlation
import X64dbgMcp.Mcp.CallTool
import X64dbgMcp.Plugin.Crossing
import X64dbgMcp.Plugin.CrossingLists
import X64dbgMcp.Audit.Recovery
import X64dbgMcp.Events.EventPaging
import X64dbgMcp.Events.EventWait
import X64dbgMcp.Events.QueueBound
import X64dbgMcp.Fence.Signals
import X64dbgMcp.Ipc.FrameCodec
import X64dbgMcp.Ipc.Replay
import X64dbgMcp.Mcp.RetryAdvice
import X64dbgMcp.Plugin.CursorBinding
import X64dbgMcp.Plugin.LaunchArguments
import X64dbgMcp.Plugin.ListingChain
import X64dbgMcp.Settings.SameSettings
import X64dbgMcp.Trace.StopRecord
import X64dbgMcp.Plugin.TrackedPatches
import X64dbgMcp.Plugin.AddressForms
import X64dbgMcp.Plugin.DumpMemory
import X64dbgMcp.Tools.MemoryView
import X64dbgMcp.Audit.QueueAccounting
import X64dbgMcp.Text.Replace
import X64dbgMcp.Audit.Redaction
import X64dbgMcp.Plugin.PatchInverse
import X64dbgMcp.Settings.ProfileResponse
import X64dbgMcp.Mcp.GrammarInclusion
import X64dbgMcp.Plugin.CursorCodec
import X64dbgMcp.Audit.CursorInvariant
import X64dbgMcp.Plugin.DumpPath
import X64dbgMcp.Plugin.MatchContext
import X64dbgMcp.Plugin.PePolicy
import X64dbgMcp.Plugin.RegisterPolicy
import X64dbgMcp.Plugin.BreakpointOwnership
import X64dbgMcp.Plugin.ConditionalExpression
import X64dbgMcp.Transition.CommandLoop
import X64dbgMcp.Transition.Dialogue
import X64dbgMcp.Plugin.BreakpointOutcomes
import X64dbgMcp.Plugin.RunControl
import X64dbgMcp.Plugin.RunOutcomes
import X64dbgMcp.Plugin.RuntimeAnswers
import X64dbgMcp.Plugin.DebuggerLoop
import X64dbgMcp.Plugin.BreakpointResidue
import X64dbgMcp.Plugin.RunToResidue
