import Rzu.Library.LittleEndian
import Rzu.Library.Keystream
import Rzu.Net.Stream

/-!
# Packet sessions

The receive side of `PacketSession`: the input buffer, the receive loop of
`onDataReceived`, and the connection life cycle that resets them.  The session
is generic in the transform that its `read` applies to the received bytes: the
identity for a plain session, the cipher for an encrypted one.
-/

namespace Rzu
namespace Net

open Library

def maxPacketSize : Nat := 65536

def initialInputBufferSize : Nat := 296

structure InputBuffer where
  buffer : List UInt8
  currentMessageSize : Nat
  discardPacket : Bool
  /-- A message that is not discarded fits the largest packet. -/
  bounded : discardPacket = false ->
    currentMessageSize + 4 ≤ maxPacketSize
deriving DecidableEq

namespace InputBuffer

def bufferSize (inputBuffer : InputBuffer) : Nat :=
  inputBuffer.buffer.length

/-- No message is under way; `discardPacket` keeps its last value. -/
def finishMessage (inputBuffer : InputBuffer) : InputBuffer where
  buffer := inputBuffer.buffer
  currentMessageSize := 0
  discardPacket := inputBuffer.discardPacket
  bounded _ := by decide

def startMessage (inputBuffer : InputBuffer) (size : Nat) : InputBuffer :=
  if size ≤ 4 then
    inputBuffer.finishMessage
  else
    { buffer := inputBuffer.buffer
      currentMessageSize := size - 4
      discardPacket := decide (size > maxPacketSize)
      bounded := by
        intro hkeep
        have hle := of_decide_eq_false hkeep
        unfold maxPacketSize at hle ⊢
        lia }

/-- The effect of discarding some bytes of the message under way. -/
def discarded (inputBuffer : InputBuffer) (count : Nat) : InputBuffer where
  buffer := inputBuffer.buffer
  currentMessageSize := inputBuffer.currentMessageSize - count
  discardPacket := inputBuffer.discardPacket
  bounded hkeep := by
    have hle := inputBuffer.bounded hkeep
    lia

end InputBuffer

/-- What `new uint8_t[size]` finds in memory is up to the allocator. -/
def newBuffer (garbage : Nat -> UInt8) (size : Nat) : List UInt8 :=
  (List.range size).map garbage

@[simp] theorem newBuffer_length (garbage : Nat -> UInt8) (size : Nat) :
    (newBuffer garbage size).length = size := by
  simp [newBuffer]

/-- The memory behind the message pointer that a handler is given. -/
abbrev Message := List UInt8

/-- The part of a message that its size field covers. -/
structure Frame where
  size : Nat
  body : List UInt8
deriving DecidableEq, Repr

def Message.frame (message : Message) : Frame where
  size := leNat (message.take 4)
  body := (message.drop 4).take (leNat (message.take 4) - 4)

/-- A session together with the stream that `getStream` returns. -/
structure Receiver (cipher : Type) where
  stream : Stream
  inputBuffer : InputBuffer
  inputEnc : cipher

namespace Receiver

variable {cipher : Type} (T : ByteTransform cipher)
variable (garbage : Nat -> UInt8)

/-- `read` takes bytes from the stream and passes them through the cipher. -/
def read (r : Receiver cipher) (size : Nat) :
    List UInt8 × Receiver cipher :=
  let raw := r.stream.read size
  let decoded := T.run r.inputEnc raw.1
  (decoded.1, { r with stream := raw.2, inputEnc := decoded.2 })

/-- Read the size of the next message and decide what to do with it. -/
def readHeader (r : Receiver cipher) : Receiver cipher :=
  { (r.read T 4).2 with
    inputBuffer := r.inputBuffer.startMessage (leNat (r.read T 4).1) }

/-- Skip bytes of an oversized message, straight from the stream. -/
def discardBody (r : Receiver cipher) : Receiver cipher :=
  { r with
    stream := (r.stream.discard r.inputBuffer.currentMessageSize).2
    inputBuffer :=
      r.inputBuffer.discarded
        (r.stream.discard r.inputBuffer.currentMessageSize).1 }

/-- The buffer, reallocated when the message does not fit. -/
def ensureBuffer (inputBuffer : InputBuffer) : List UInt8 :=
  if inputBuffer.currentMessageSize + 4 > inputBuffer.bufferSize then
    newBuffer garbage (inputBuffer.currentMessageSize + 4)
  else
    inputBuffer.buffer

def completeMessage (inputBuffer : InputBuffer) (body : List UInt8) :
    Message :=
  leBytes 4 (inputBuffer.currentMessageSize + 4) ++
    (body ++
      (ensureBuffer garbage inputBuffer).drop
        (inputBuffer.currentMessageSize + 4))

/-- Complete the message in the buffer and dispatch it. -/
def dispatchBody (r : Receiver cipher) : Receiver cipher × Message :=
  let body := r.read T r.inputBuffer.currentMessageSize
  let message := completeMessage garbage r.inputBuffer body.1
  ({ body.2 with
      inputBuffer :=
        ({ r.inputBuffer with buffer := message } :
          InputBuffer).finishMessage },
    message)

/-- The second half of the loop body: discard, dispatch or wait. -/
def handleBody (r : Receiver cipher) : Receiver cipher × List Message :=
  if r.inputBuffer.currentMessageSize ≠ 0 ∧
      r.inputBuffer.discardPacket = true then
    (r.discardBody, [])
  else if r.inputBuffer.currentMessageSize ≠ 0 ∧
      r.stream.getAvailableBytes ≥ r.inputBuffer.currentMessageSize then
    ((r.dispatchBody T garbage).1, [(r.dispatchBody T garbage).2])
  else
    (r, [])

/-- The body of the receive loop; `none` stands for its `break`. -/
def loopBody (r : Receiver cipher) :
    Option (Receiver cipher × List Message) :=
  if r.inputBuffer.currentMessageSize = 0 ∧
      r.stream.getAvailableBytes < 4 then
    none
  else if r.inputBuffer.currentMessageSize = 0 then
    some ((r.readHeader T).handleBody T garbage)
  else
    some (r.handleBody T garbage)

def loopAgain (r : Receiver cipher) : Bool :=
  decide
    ((r.inputBuffer.currentMessageSize = 0 ∧
        r.stream.getAvailableBytes ≥ 4) ∨
      (r.inputBuffer.currentMessageSize ≠ 0 ∧
        r.stream.getAvailableBytes ≥ r.inputBuffer.currentMessageSize))

theorem read_stream (r : Receiver cipher) (size : Nat) :
    (r.read T size).2.stream = (r.stream.read size).2 := rfl

theorem readHeader_recvBuffer {r : Receiver cipher}
    (h : 4 ≤ r.stream.getAvailableBytes) :
    (r.readHeader T).stream.recvBuffer = r.stream.recvBuffer.drop 4 := by
  change (r.read T 4).2.stream.recvBuffer = _
  rw [read_stream, Stream.read_of_le h]

theorem dispatchBody_recvBuffer {r : Receiver cipher}
    (h : r.inputBuffer.currentMessageSize ≤ r.stream.getAvailableBytes) :
    (r.dispatchBody T garbage).1.stream.recvBuffer =
      r.stream.recvBuffer.drop r.inputBuffer.currentMessageSize := by
  change (r.read T r.inputBuffer.currentMessageSize).2.stream.recvBuffer = _
  rw [read_stream, Stream.read_of_le h]

theorem discardBody_recvBuffer (r : Receiver cipher) :
    r.discardBody.stream.recvBuffer =
      r.stream.recvBuffer.drop r.inputBuffer.currentMessageSize := by
  change r.stream.recvBuffer.drop (r.stream.effectiveSize _) = _
  rw [Stream.effectiveSize_eq_min]
  rcases Nat.le_total r.inputBuffer.currentMessageSize
    r.stream.recvBuffer.length with hle | hle
  · rw [Nat.min_eq_left hle]
  · rw [Nat.min_eq_right hle, List.drop_length, List.drop_of_length_le hle]

theorem handleBody_length_le (r : Receiver cipher) :
    (r.handleBody T garbage).1.stream.recvBuffer.length ≤
      r.stream.recvBuffer.length := by
  unfold handleBody
  split
  · rw [discardBody_recvBuffer, List.length_drop]
    lia
  · split
    · rename_i hbody
      rw [dispatchBody_recvBuffer T garbage hbody.right, List.length_drop]
      lia
    · exact Nat.le_refl _

theorem loopBody_length_lt {r r' : Receiver cipher} {out : List Message}
    (h : r.loopBody T garbage = some (r', out))
    (hagain : r'.loopAgain = true) :
    r'.stream.recvBuffer.length < r.stream.recvBuffer.length := by
  unfold loopBody at h
  split at h
  · cases h
  rename_i hbreak
  split at h
  · rename_i hzero
    have havail : 4 ≤ r.stream.getAvailableBytes := by
      lia
    have hlen := handleBody_length_le T garbage (r.readHeader T)
    rw [Option.some.inj h, readHeader_recvBuffer T havail,
      List.length_drop] at hlen
    unfold Stream.getAvailableBytes at havail
    change r'.stream.recvBuffer.length ≤ _ at hlen
    lia
  · rename_i hne
    have hbody := Option.some.inj h
    unfold handleBody at hbody
    unfold loopAgain at hagain
    have hcond := of_decide_eq_true hagain
    unfold Stream.getAvailableBytes at hcond
    split at hbody
    · -- a partial discard empties the stream, so the loop would not go on
      have hr' : r.discardBody = r' := congrArg Prod.fst hbody
      have hrecv := discardBody_recvBuffer r
      have hsize : r'.inputBuffer.currentMessageSize =
          r.inputBuffer.currentMessageSize -
            r.stream.effectiveSize r.inputBuffer.currentMessageSize := by
        rw [← hr']
        rfl
      rw [hr'] at hrecv
      rw [Stream.effectiveSize_eq_min] at hsize
      rw [hrecv, List.length_drop] at hcond ⊢
      lia
    · split at hbody
      · rename_i hdispatch
        have hr' : (r.dispatchBody T garbage).1 = r' := congrArg Prod.fst hbody
        have hrecv := dispatchBody_recvBuffer T garbage hdispatch.right
        rw [hr'] at hrecv
        have havail := hdispatch.right
        unfold Stream.getAvailableBytes at havail
        rw [hrecv, List.length_drop]
        lia
      · rename_i hdiscard hdispatch
        have hr' : r = r' := congrArg Prod.fst hbody
        rw [← hr'] at hcond
        exfalso
        apply hdispatch
        refine ⟨hne, ?_⟩
        rcases hcond with hcond | hcond
        · exact absurd hcond.left hne
        · exact hcond.right

/-- The do-while loop of `onDataReceived`. -/
def onDataReceived (r : Receiver cipher) : Receiver cipher × List Message :=
  match _h : r.loopBody T garbage with
  | none => (r, [])
  | some (r', out) =>
      if _hagain : r'.loopAgain = true then
        ((onDataReceived r').1, out ++ (onDataReceived r').2)
      else
        (r', out)
termination_by r.stream.recvBuffer.length
decreasing_by all_goals exact loopBody_length_lt T garbage _h _hagain

/-- Data from the socket: buffer it, then notify the session. -/
def dataReceived (r : Receiver cipher) (data : List UInt8) :
    Receiver cipher × List Message :=
  if data = [] then
    (r, [])
  else
    ({ r with stream := r.stream.appendReceived data } :
      Receiver cipher).onDataReceived T garbage

/-- Data that arrives in several chunks. -/
def receiveAll (r : Receiver cipher) :
    List (List UInt8) -> Receiver cipher × List Message
  | [] => (r, [])
  | chunk :: rest =>
      let first := r.dataReceived T garbage chunk
      let later := receiveAll first.1 rest
      (later.1, first.2 ++ later.2)

def dispatched (r : Receiver cipher) (chunks : List (List UInt8)) :
    List Frame :=
  (r.receiveAll T garbage chunks).2.map Message.frame

end Receiver

theorem InputBuffer.bounded_zero : false = false -> 0 + 4 ≤ maxPacketSize :=
  fun _ => by decide

def InputBuffer.create (garbage : Nat -> UInt8) : InputBuffer where
  buffer := newBuffer garbage initialInputBufferSize
  currentMessageSize := 0
  discardPacket := false
  bounded := InputBuffer.bounded_zero

/-- A new session that has just been connected. -/
def Receiver.start {cipher : Type} (garbage : Nat -> UInt8)
    (streamType : StreamType) (inputEnc : cipher) : Receiver cipher where
  stream := (Stream.create streamType).setState StreamState.connected
  inputBuffer := InputBuffer.create garbage
  inputEnc := inputEnc

end Net
end Rzu
