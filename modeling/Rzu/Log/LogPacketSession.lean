import Rzu.Library.DoWhile
import Rzu.Library.LittleEndian
import Rzu.Net.Stream

/-!
# Sessions of the log server

The receive side of `LogPacketSession`: a header of an id and a size, both of
16 bits, and the loop of `onDataReceived`.
-/

namespace Rzu
namespace Log

open Library Net

def maxPacketSize : Nat := 65536

def initialInputBufferSize : Nat := 296

structure MiniHeader where
  id : UInt16
  size : UInt16
deriving DecidableEq, Repr

/-- The header as it lies in memory. -/
def MiniHeader.ofBytes (raw : List UInt8) : MiniHeader where
  id := UInt16.ofNat (leNat (raw.take 2))
  size := UInt16.ofNat (leNat ((raw.drop 2).take 2))

/-- What `new uint8_t[size]` finds in memory is up to the allocator. -/
def newBuffer (garbage : Nat -> UInt8) (size : Nat) : List UInt8 :=
  (List.range size).map garbage

structure InputBuffer where
  buffer : List UInt8
  currentMessage : MiniHeader
  discardPacket : Bool
  /-- A size of 16 bits never exceeds the largest packet. -/
  kept : discardPacket = false

namespace InputBuffer

def create (garbage : Nat -> UInt8) : InputBuffer where
  buffer := newBuffer garbage initialInputBufferSize
  currentMessage := { id := 0, size := 0 }
  discardPacket := false
  kept := rfl

def bufferSize (inputBuffer : InputBuffer) : Nat :=
  inputBuffer.buffer.length

def expectedSize (size : UInt16) : UInt16 :=
  if size ≤ 4 then 0 else size

def startMessage (inputBuffer : InputBuffer) (header : MiniHeader) :
    InputBuffer where
  buffer := inputBuffer.buffer
  currentMessage :=
    { id := header.id, size := expectedSize header.size - 4 }
  discardPacket :=
    decide ((expectedSize header.size).toNat > maxPacketSize)
  kept := by
    have hlt := (expectedSize header.size).toNat_lt
    apply decide_eq_false
    unfold maxPacketSize
    lia

def setSize (inputBuffer : InputBuffer) (size : UInt16) : InputBuffer where
  buffer := inputBuffer.buffer
  currentMessage := { id := inputBuffer.currentMessage.id, size := size }
  discardPacket := inputBuffer.discardPacket
  kept := inputBuffer.kept

def setBuffer (inputBuffer : InputBuffer) (buffer : List UInt8) :
    InputBuffer where
  buffer := buffer
  currentMessage := inputBuffer.currentMessage
  discardPacket := inputBuffer.discardPacket
  kept := inputBuffer.kept

end InputBuffer

/-- The memory behind the message pointer that a handler is given. -/
abbrev Message := List UInt8

/-- The part of a message that its size field covers. -/
structure Frame where
  id : UInt16
  size : UInt16
  body : List UInt8
deriving DecidableEq, Repr

def Message.frame (message : Message) : Frame where
  id := (MiniHeader.ofBytes message).id
  size := (MiniHeader.ofBytes message).size
  body :=
    (message.drop 4).take ((MiniHeader.ofBytes message).size.toNat - 4)

/-- A session together with the stream that `getStream` returns. -/
structure Receiver where
  stream : Stream
  inputBuffer : InputBuffer

namespace Receiver

variable (garbage : Nat -> UInt8)

def currentMessageSize (r : Receiver) : Nat :=
  r.inputBuffer.currentMessage.size.toNat

def readHeader (r : Receiver) : Receiver where
  stream := (r.stream.read 4).2
  inputBuffer :=
    r.inputBuffer.startMessage (MiniHeader.ofBytes (r.stream.read 4).1)

/-- Skip bytes of an oversized message, straight from the stream. -/
def discardBody (r : Receiver) : Receiver where
  stream := (r.stream.discard r.currentMessageSize).2
  inputBuffer :=
    r.inputBuffer.setSize (r.inputBuffer.currentMessage.size -
      UInt16.ofNat (r.stream.discard r.currentMessageSize).1)

/-- The buffer, reallocated when the message does not fit. -/
def ensureBuffer (r : Receiver) : List UInt8 :=
  if r.currentMessageSize + 4 > r.inputBuffer.bufferSize then
    newBuffer garbage (r.currentMessageSize + 4)
  else
    r.inputBuffer.buffer

/-- The buffer once the header and the body are in place. -/
def completeMessage (r : Receiver) : Message :=
  leBytes 2 r.inputBuffer.currentMessage.id.toNat ++
    (leBytes 2 (r.inputBuffer.currentMessage.size + 4).toNat ++
      ((r.stream.read r.currentMessageSize).1 ++
        (r.ensureBuffer garbage).drop (r.currentMessageSize + 4)))

def dispatchBody (r : Receiver) : Receiver where
  stream := (r.stream.read r.currentMessageSize).2
  inputBuffer :=
    (r.inputBuffer.setBuffer (r.completeMessage garbage)).setSize 0

/-- The second half of the loop body: discard, dispatch or wait. -/
def handleBody (r : Receiver) : Receiver × List Message :=
  if r.inputBuffer.currentMessage.size ≠ 0 ∧
      r.inputBuffer.discardPacket = true then
    (r.discardBody, [])
  else if r.inputBuffer.currentMessage.size ≠ 0 ∧
      r.stream.getAvailableBytes ≥ r.currentMessageSize then
    (r.dispatchBody garbage, [r.completeMessage garbage])
  else
    (r, [])

/-- The body of the receive loop; `none` stands for its `break`. -/
def loopBody (r : Receiver) : Option (Receiver × List Message) :=
  if r.inputBuffer.currentMessage.size = 0 ∧
      r.stream.getAvailableBytes < 4 then
    none
  else if r.inputBuffer.currentMessage.size = 0 then
    some (r.readHeader.handleBody garbage)
  else
    some (r.handleBody garbage)

/-- The condition of the receive loop. -/
def loopAgain (r : Receiver) : Bool :=
  decide
    ((r.inputBuffer.currentMessage.size = 0 ∧
        r.stream.getAvailableBytes ≥ 4) ∨
      (r.inputBuffer.currentMessage.size ≠ 0 ∧
        r.stream.getAvailableBytes ≥ r.currentMessageSize))

theorem handleBody_eq (r : Receiver) :
    r.handleBody garbage =
      if r.inputBuffer.currentMessage.size ≠ 0 ∧
          r.stream.getAvailableBytes ≥ r.currentMessageSize then
        (r.dispatchBody garbage, [r.completeMessage garbage])
      else (r, []) := by
  rw [handleBody, if_neg]
  intro hdiscard
  rw [r.inputBuffer.kept] at hdiscard
  cases hdiscard.right

theorem readHeader_recvBuffer {r : Receiver}
    (h : 4 ≤ r.stream.getAvailableBytes) :
    r.readHeader.stream.recvBuffer = r.stream.recvBuffer.drop 4 := by
  change (r.stream.read 4).2.recvBuffer = _
  rw [Stream.read_of_le h]

theorem dispatchBody_recvBuffer {r : Receiver}
    (h : r.currentMessageSize ≤ r.stream.getAvailableBytes) :
    (r.dispatchBody garbage).stream.recvBuffer =
      r.stream.recvBuffer.drop r.currentMessageSize := by
  change (r.stream.read r.currentMessageSize).2.recvBuffer = _
  rw [Stream.read_of_le h]

theorem currentMessageSize_pos {r : Receiver}
    (h : r.inputBuffer.currentMessage.size ≠ 0) :
    0 < r.currentMessageSize := by
  apply Nat.pos_of_ne_zero
  intro hzero
  exact h (UInt16.toNat_inj.mp hzero)

theorem handleBody_length_le (r : Receiver) :
    (r.handleBody garbage).1.stream.recvBuffer.length ≤
      r.stream.recvBuffer.length := by
  rw [handleBody_eq]
  split
  · rename_i hbody
    rw [dispatchBody_recvBuffer garbage hbody.right, List.length_drop]
    lia
  · exact Nat.le_refl _

theorem loopBody_length_lt {r r' : Receiver} {out : List Message}
    (h : r.loopBody garbage = some (r', out))
    (hagain : r'.loopAgain = true) :
    r'.stream.recvBuffer.length < r.stream.recvBuffer.length := by
  unfold loopBody at h
  split at h
  · cases h
  rename_i hbreak
  split at h
  · rename_i hzero
    have havail : 4 ≤ r.stream.getAvailableBytes := by
      apply Nat.le_of_not_lt
      intro hshort
      exact hbreak ⟨hzero, hshort⟩
    have hlen := handleBody_length_le garbage r.readHeader
    rw [Option.some.inj h, readHeader_recvBuffer havail,
      List.length_drop] at hlen
    unfold Stream.getAvailableBytes at havail
    change r'.stream.recvBuffer.length ≤ _ at hlen
    lia
  · rename_i hne
    rw [handleBody_eq] at h
    split at h
    · rename_i hdispatch
      have hpos := currentMessageSize_pos hne
      have havail := hdispatch.right
      unfold Stream.getAvailableBytes at havail
      cases h
      rw [dispatchBody_recvBuffer garbage hdispatch.right, List.length_drop]
      lia
    · rename_i hwait
      cases h
      have hcond := of_decide_eq_true hagain
      exfalso
      apply hwait
      rcases hcond with hcond | hcond
      · exact absurd hcond.left hne
      · exact hcond

/-- The do-while loop of `onDataReceived`. -/
def receiveLoop : DoWhile Receiver Message where
  body r := r.loopBody garbage
  again := loopAgain
  measure r := r.stream.recvBuffer.length
  decreases := loopBody_length_lt garbage

def onDataReceived (r : Receiver) : Receiver × List Message :=
  (receiveLoop garbage).run r

/-- Data from the socket: buffer it, then notify the session. -/
def dataReceived (r : Receiver) (data : List UInt8) :
    Receiver × List Message :=
  if data = [] then
    (r, [])
  else
    ({ r with stream := r.stream.appendReceived data } :
      Receiver).onDataReceived garbage

def receiveAll (r : Receiver) (chunks : List (List UInt8)) :
    Receiver × List Message :=
  DoWhile.receiveAll (dataReceived garbage) r chunks

/-- A new session that has just been connected. -/
def start (streamType : StreamType) : Receiver where
  stream := (Stream.create streamType).setState StreamState.connected
  inputBuffer := InputBuffer.create garbage

end Receiver

end Log
end Rzu
