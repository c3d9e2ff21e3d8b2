import Mathlib

/-!
# Frames, lanes and the channel's limits

The session contract shared by the channel adapters and the session host. A
frame is a tag byte and an opaque body. A carrier checks the size before the
tag, as a byte stream's reader meets its length prefix first. Lanes bound the
in-process queues, and frame keys order a byte stream's writer.
-/
namespace GwzCore.SessionContract

abbrev Bytes := List UInt8

/-- The largest `usize` of a 64-bit host. -/
def usizeMax : ℕ := 2 ^ 64 - 1

/-- The largest frame: its tag byte and its body, as a length prefix counts them. -/
def maxFrameBytes : ℕ := 64 * 1024 * 1024

structure Frame where
  tag : UInt8
  body : Bytes
  deriving DecidableEq

/-- A frame its carrier may not carry, which ends the session. -/
inductive FrameError where
  | unknownTag (byte : UInt8)
  | reservedTag (byte : UInt8)
  | byteStreamOnly (byte : UInt8)
  | tooLarge (size : ℕ)
  | empty
  deriving DecidableEq

/-- The tag registry. -/
inductive Tag where
  | sessionCall
  | sessionReply
  | sessionError
  | sessionOpen
  | sessionOpened
  | sessionHello
  | serverControl
  | serverState
  | transportData
  | transportControl
  deriving DecidableEq

namespace Tag

/-- The registry's tag for a byte, whatever the carrier. Bytes 18 to 31 are
reserved, and every other byte outside the registry is unknown. -/
def fromByte (byte : UInt8) : Except FrameError Tag :=
  match byte.toNat with
  | 1 => .ok sessionCall
  | 2 => .ok sessionReply
  | 3 => .ok sessionError
  | 4 => .ok sessionOpen
  | 5 => .ok sessionOpened
  | 6 => .ok sessionHello
  | 7 => .ok serverControl
  | 8 => .ok serverState
  | 16 => .ok transportData
  | 17 => .ok transportControl
  | n => if 18 ≤ n ∧ n ≤ 31 then .error (.reservedTag byte) else .error (.unknownTag byte)

def byteStreamOnly : Tag → Bool
  | sessionOpen | sessionOpened | sessionHello | serverControl | serverState => true
  | _ => false

end Tag

/-- The two adapters. Tags 4 to 8 cross byte streams only. -/
inductive Carrier where
  | inProcess
  | byteStream
  deriving DecidableEq

/-- The registry's tag for a byte, if this carrier carries it. -/
def Carrier.tag (carrier : Carrier) (byte : UInt8) : Except FrameError Tag :=
  match Tag.fromByte byte with
  | .ok tag =>
    if tag.byteStreamOnly = true ∧ carrier = .inProcess then .error (.byteStreamOnly byte)
    else .ok tag
  | .error error => .error error

namespace Frame

/-- The tag byte and the body; the addition saturates. -/
def size (frame : Frame) : ℕ := min (frame.body.length + 1) usizeMax

def checkSize (size : ℕ) : Except FrameError Unit :=
  if size = 0 then .error .empty
  else if size > maxFrameBytes then .error (.tooLarge size)
  else .ok ()

/-- Whether `carrier` carries this frame: the size first, then the tag. -/
def check (frame : Frame) (carrier : Carrier) : Except FrameError Tag :=
  match checkSize frame.size with
  | .error error => .error error
  | .ok () => carrier.tag frame.tag

lemma checkSize_ok_iff (size : ℕ) : checkSize size = .ok () ↔ 0 < size ∧ size ≤ maxFrameBytes := by
  unfold checkSize
  split_ifs <;> simp <;> omega

/-- A checked frame's body leaves room for its tag byte, so its size is exact. -/
lemma size_of_check {frame : Frame} {carrier : Carrier} {tag : Tag}
    (h : frame.check carrier = .ok tag) :
    frame.size = frame.body.length + 1 ∧ frame.size ≤ maxFrameBytes ∧
      carrier.tag frame.tag = .ok tag := by
  unfold check at h
  split at h
  · cases h
  · rename_i hsize
    have hle := ((checkSize_ok_iff _).mp hsize).2
    refine ⟨?_, hle, h⟩
    simp only [size, usizeMax, maxFrameBytes] at hle ⊢
    omega

end Frame

/-- The lane a frame travels on: ordinary calls and their replies, or control
calls and theirs. -/
inductive Lane where
  | call
  | control
  deriving DecidableEq

/-- Whether a byte stream's writer may write a frame ahead of ordinary frames. -/
inductive Class where
  | control
  | ordinary
  deriving DecidableEq

/-- What a frame's order is kept for, compared for equality only. -/
abbrev Target := UInt64

structure FrameKey where
  cls : Class
  target : Target
  deriving DecidableEq

/-- The failure kinds of a byte stream that this code tells apart. -/
inductive ErrorKind where
  | interrupted
  | unexpectedEof
  | invalidInput
  | brokenPipe
  | connectionReset
  | connectionAborted
  | notConnected
  | other (code : ℕ)
  deriving DecidableEq

/-- Why a channel has ended, as one end sees it. -/
inductive Closed where
  | localEnd
  | peer
  | protocol (error : FrameError)
  | stream (kind : ErrorKind)
  deriving DecidableEq

/-- Why a send did not send its frame, which comes back. -/
inductive SendError where
  | full (frame : Frame)
  | closed (frame : Frame) (reason : Closed)
  deriving DecidableEq

inductive LimitsError where
  | noOutstandingCalls
  | noControlReserve
  | overflow
  deriving DecidableEq

/-- The channel's two limits. Neither is zero, and their sum, a queue's
capacity, does not overflow. -/
structure Limits where
  outstandingCalls : ℕ
  controlReserve : ℕ
  calls_pos : 0 < outstandingCalls
  controls_pos : 0 < controlReserve
  capacity_le : outstandingCalls + controlReserve ≤ usizeMax

namespace Limits

def new (outstandingCalls controlReserve : ℕ) : Except LimitsError Limits :=
  if hcalls : outstandingCalls = 0 then .error .noOutstandingCalls
  else if hcontrols : controlReserve = 0 then .error .noControlReserve
  else if hsum : outstandingCalls + controlReserve > usizeMax then .error .overflow
  else .ok ⟨outstandingCalls, controlReserve, by omega, by omega, by omega⟩

/-- The room a lane has in each queue. -/
def laneCapacity (limits : Limits) : Lane → ℕ
  | .call => limits.outstandingCalls
  | .control => limits.controlReserve

end Limits

end GwzCore.SessionContract
