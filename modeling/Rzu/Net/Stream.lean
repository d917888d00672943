import Mathlib.Data.List.Basic

/-!
# Streams

The part of a stream that sessions rely on: its state, and the receive buffer
between the socket and the session.
-/

namespace Rzu
namespace Net

inductive StreamType where
  | socket
  | pipe
deriving DecidableEq, Repr

inductive StreamState where
  | unconnected
  | connecting
  | binding
  | listening
  | connected
  | closing
deriving DecidableEq, Repr

structure Stream where
  streamType : StreamType
  currentState : StreamState
  recvBuffer : List UInt8
deriving DecidableEq, Repr

namespace Stream

def create (streamType : StreamType) : Stream where
  streamType := streamType
  currentState := StreamState.unconnected
  recvBuffer := []

def getAvailableBytes (stream : Stream) : Nat :=
  stream.recvBuffer.length

/-- The number of bytes that a read or a discard of some size consumes. -/
def effectiveSize (stream : Stream) (size : Nat) : Nat :=
  if stream.recvBuffer.length > size then size else stream.recvBuffer.length

def read (stream : Stream) (size : Nat) : List UInt8 × Stream :=
  (stream.recvBuffer.take (stream.effectiveSize size),
    { stream with
      recvBuffer := stream.recvBuffer.drop (stream.effectiveSize size) })

def discard (stream : Stream) (size : Nat) : Nat × Stream :=
  (stream.effectiveSize size,
    { stream with
      recvBuffer := stream.recvBuffer.drop (stream.effectiveSize size) })

/-- The successful branch of `onReadCompleted`, before the data listeners. -/
def appendReceived (stream : Stream) (data : List UInt8) : Stream :=
  { stream with recvBuffer := stream.recvBuffer ++ data }

/-- Reuse the existing stream when it already has the requested type. -/
def getStream (streamType : StreamType) : Option Stream -> Stream
  | none => create streamType
  | some existing =>
      if existing.streamType = streamType then existing
      else create streamType

def connect (stream : Stream) : Option Stream :=
  if stream.currentState = StreamState.unconnected then
    some { stream with currentState := StreamState.connecting }
  else
    none

def setState (stream : Stream) (state : StreamState) : Stream :=
  { stream with currentState := state }

theorem effectiveSize_eq_min (stream : Stream) (size : Nat) :
    stream.effectiveSize size = min size stream.recvBuffer.length := by
  unfold effectiveSize
  split <;> lia

theorem effectiveSize_of_le {stream : Stream} {size : Nat}
    (h : size ≤ stream.getAvailableBytes) :
    stream.effectiveSize size = size := by
  rw [effectiveSize_eq_min]
  exact Nat.min_eq_left h

theorem read_of_le {stream : Stream} {size : Nat}
    (h : size ≤ stream.getAvailableBytes) :
    stream.read size =
      (stream.recvBuffer.take size,
        { stream with recvBuffer := stream.recvBuffer.drop size }) := by
  rw [read, effectiveSize_of_le h]

end Stream

end Net
end Rzu
