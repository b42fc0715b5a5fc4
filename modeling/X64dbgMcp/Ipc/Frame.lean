import Mathlib.Data.List.Basic

/-!
# Frames

A frame is a four-byte little-endian length followed by the payload.  Writing
produces the whole frame at once; reading collects the bytes of one frame and
never asks for a byte beyond it.
-/

namespace X64dbgMcp.Ipc

/-- What goes over the stream. -/
abbrev Bytes := List UInt8

/-- `MAX_FRAME_BYTES`: the longest payload. -/
def maxFrameBytes : Nat := 1024 * 1024

/-- The bytes of the length in front of a payload. -/
def lengthPrefixBytes : Nat := 4

/-- Why a frame is refused. -/
inductive FrameError where
  | missingLengthPrefix
  | emptyPayload
  | oversized
  | lengthMismatch
  | invalidPayload
  | io
  deriving DecidableEq

/-- The four bytes of a length. -/
def lengthPrefix (length : Nat) : Bytes :=
  [UInt8.ofNat length, UInt8.ofNat (length / 256), UInt8.ofNat (length / 65536),
    UInt8.ofNat (length / 16777216)]

/-- The length that four bytes stand for. -/
def prefixLength (bytes : Bytes) : Nat :=
  bytes.foldr (fun byte rest => byte.toNat + 256 * rest) 0

/-- Frame a serialized message; `none` is a failed serialization. -/
def encodeFrame (serialized : Option Bytes) : Except FrameError Bytes :=
  match serialized with
  | none => .error .invalidPayload
  | some payload =>
      if payload.isEmpty then .error .emptyPayload
      else if maxFrameBytes < payload.length then .error .oversized
      else .ok (lengthPrefix payload.length ++ payload)

/-- How far the reader of one frame is. -/
inductive ReadProgress where
  /-- The next `read_exact` still wants this many bytes. -/
  | wants (count : Nat)
  | failed (error : FrameError)
  | complete (payload : Bytes)
  deriving DecidableEq

/-- The reader after collecting `buffer`.  The length is checked as soon as the
prefix is complete. -/
def readProgress (buffer : Bytes) : ReadProgress :=
  if buffer.length < lengthPrefixBytes then .wants (lengthPrefixBytes - buffer.length)
  else
    let length := prefixLength (buffer.take lengthPrefixBytes)
    if length = 0 then .failed .emptyPayload
    else if maxFrameBytes < length then .failed .oversized
    else if buffer.length < lengthPrefixBytes + length then
      .wants (lengthPrefixBytes + length - buffer.length)
    else .complete (buffer.drop lengthPrefixBytes)

end X64dbgMcp.Ipc
