import Rzu.Net.Segmentation

/-!
# The life of a session

A session object outlives its connections.  It keeps its input buffer, the
position of its cipher and the stream of the last connection; connecting again
reuses that stream when it has the requested type.
-/

namespace Rzu
namespace Net

open Library

structure Session (cipher : Type) where
  stream : Option Stream
  inputBuffer : InputBuffer
  inputEnc : cipher

inductive SessionEvent where
  /-- `connect` is called. -/
  | connect (streamType : StreamType)
  /-- The stream reports that the connection is there. -/
  | connected
  /-- The socket has data. -/
  | received (data : List UInt8)
  /-- `close`, `abort`, the end of the stream or an error. -/
  | closing
  /-- The handle of the stream is closed. -/
  | closed

/-- What `PacketSession::onConnected` does to the input buffer. -/
def InputBuffer.onConnected (inputBuffer : InputBuffer) : InputBuffer where
  buffer := inputBuffer.buffer
  currentMessageSize := 0
  discardPacket := false
  bounded := InputBuffer.bounded_zero

namespace Stream

/-- The states in which libuv still delivers data. -/
def reading (stream : Stream) : Bool :=
  stream.currentState == StreamState.connected ||
    stream.currentState == StreamState.closing

def closing (stream : Stream) : Stream :=
  if stream.currentState = StreamState.unconnected then stream
  else stream.setState StreamState.closing

def closed (stream : Stream) : Stream :=
  if stream.currentState = StreamState.closing then
    stream.setState StreamState.unconnected
  else stream

end Stream

namespace Session

variable {cipher : Type} (T : ByteTransform cipher)
variable (garbage : Nat -> UInt8) (cachedCipher : cipher)

def create : Session cipher where
  stream := none
  inputBuffer := InputBuffer.create garbage
  inputEnc := cachedCipher

/-- The cipher starts anew before the stream has a chance to refuse. -/
def connect (s : Session cipher) (streamType : StreamType) :
    Session cipher where
  stream :=
    some (((Stream.getStream streamType s.stream).connect).getD
      (Stream.getStream streamType s.stream))
  inputBuffer := s.inputBuffer
  inputEnc := cachedCipher

def connected (s : Session cipher) : Session cipher :=
  match s.stream with
  | none => s
  | some stream =>
      if stream.currentState = StreamState.connecting then
        { s with
          stream := some (stream.setState StreamState.connected)
          inputBuffer := s.inputBuffer.onConnected }
      else s

def receiver (s : Session cipher) (stream : Stream) : Receiver cipher where
  stream := stream
  inputBuffer := s.inputBuffer
  inputEnc := s.inputEnc

def ofReceiver (r : Receiver cipher) : Session cipher where
  stream := some r.stream
  inputBuffer := r.inputBuffer
  inputEnc := r.inputEnc

def received (s : Session cipher) (data : List UInt8) :
    Session cipher × List Message :=
  match s.stream with
  | none => (s, [])
  | some stream =>
      if stream.reading = true then
        (ofReceiver ((s.receiver stream).dataReceived T garbage data).1,
          ((s.receiver stream).dataReceived T garbage data).2)
      else (s, [])

def closing (s : Session cipher) : Session cipher :=
  { s with stream := s.stream.map Stream.closing }

def closed (s : Session cipher) : Session cipher :=
  { s with stream := s.stream.map Stream.closed }

def step (s : Session cipher) : SessionEvent ->
    Session cipher × List Message
  | SessionEvent.connect streamType =>
      (s.connect cachedCipher streamType, [])
  | SessionEvent.connected => (s.connected, [])
  | SessionEvent.received data => s.received T garbage data
  | SessionEvent.closing => (s.closing, [])
  | SessionEvent.closed => (s.closed, [])

def run (s : Session cipher) : List SessionEvent ->
    Session cipher × List Message
  | [] => (s, [])
  | event :: rest =>
      let first := s.step T garbage cachedCipher event
      let later := run first.1 rest
      (later.1, first.2 ++ later.2)

def dispatched (s : Session cipher) (chunks : List (List UInt8)) :
    List Frame :=
  (s.run T garbage cachedCipher
    (chunks.map SessionEvent.received)).2.map Message.frame

def lost (s : Session cipher) : Session cipher :=
  s.closing.closed

def establish (s : Session cipher) (streamType : StreamType) :
    Session cipher :=
  (s.connect cachedCipher streamType).connected

/-!
## Reachable sessions

Whatever a session went through, its stream holds less than a packet.
-/

def Unfinished (s : Session cipher) : Prop :=
  forall stream, s.stream = some stream ->
    stream.recvBuffer.length + 4 < maxPacketSize

/-- What the stream of the next connection already holds. -/
def leftover (s : Session cipher) (streamType : StreamType) : List UInt8 :=
  (Stream.getStream streamType s.stream).recvBuffer

theorem leftover_length {s : Session cipher} (h : s.Unfinished)
    (streamType : StreamType) :
    (s.leftover streamType).length + 4 < maxPacketSize := by
  cases hold : s.stream with
  | none =>
      rw [leftover, hold]
      change 0 + 4 < maxPacketSize
      decide
  | some existing =>
      rw [leftover, hold, Stream.getStream]
      split
      · exact h existing hold
      · change 0 + 4 < maxPacketSize
        decide

theorem waiting_length {r : Receiver cipher} (h : r.framing.Waiting) :
    r.stream.recvBuffer.length + 4 < maxPacketSize := by
  cases h with
  | header hzero hshort =>
      change r.stream.recvBuffer.length < 4 at hshort
      unfold maxPacketSize
      lia
  | skip hne hdiscard hempty =>
      change r.stream.recvBuffer = [] at hempty
      rw [hempty]
      decide
  | body hne hkeep hshort =>
      have hbound := r.inputBuffer.bounded hkeep
      change r.stream.recvBuffer.length <
        r.inputBuffer.currentMessageSize at hshort
      lia

theorem onDataReceived_waiting (r : Receiver cipher) :
    (r.onDataReceived T garbage).1.framing.Waiting := by
  have hrefines := congrArg Prod.fst
    (Receiver.onDataReceived_refines T garbage r)
  have hdrained := (framer T).step_drain r.framing
  rw [← hrefines] at hdrained
  exact (Framing.idle_iff T).mp hdrained

theorem dataReceived_unfinished {r : Receiver cipher}
    (h : r.stream.recvBuffer.length + 4 < maxPacketSize)
    (data : List UInt8) :
    (r.dataReceived T garbage data).1.stream.recvBuffer.length + 4 <
      maxPacketSize := by
  unfold Receiver.dataReceived
  split
  · exact h
  · exact waiting_length (onDataReceived_waiting T garbage _)

theorem step_unfinished {s : Session cipher} (h : s.Unfinished)
    (event : SessionEvent) :
    (s.step T garbage cachedCipher event).1.Unfinished := by
  cases event with
  | connect streamType =>
      intro stream hstream
      have hget := leftover_length h streamType
      cases hstream
      unfold Stream.connect
      split
      · exact hget
      · exact hget
  | connected =>
      intro stream hstream
      change s.connected.stream = some stream at hstream
      unfold connected at hstream
      split at hstream
      · exact h stream hstream
      · rename_i existing hold
        split at hstream
        · cases hstream
          exact h existing hold
        · exact h stream hstream
  | received data =>
      intro stream hstream
      change (s.received T garbage data).1.stream = some stream at hstream
      unfold received at hstream
      split at hstream
      · exact h stream hstream
      · rename_i existing hold
        split at hstream
        · cases hstream
          exact dataReceived_unfinished T garbage
            (r := s.receiver existing) (h existing hold) data
        · exact h stream hstream
  | closing =>
      intro stream hstream
      rcases Option.map_eq_some_iff.mp hstream with ⟨existing, hold, hclosing⟩
      have hlength := h existing hold
      rw [← hclosing]
      unfold Stream.closing
      split
      · exact hlength
      · exact hlength
  | closed =>
      intro stream hstream
      rcases Option.map_eq_some_iff.mp hstream with ⟨existing, hold, hclosed⟩
      have hlength := h existing hold
      rw [← hclosed]
      unfold Stream.closed
      split
      · exact hlength
      · exact hlength

theorem run_unfinished {s : Session cipher} (h : s.Unfinished)
    (events : List SessionEvent) :
    (s.run T garbage cachedCipher events).1.Unfinished := by
  induction events generalizing s with
  | nil => exact h
  | cons event rest ih =>
      exact ih (step_unfinished T garbage cachedCipher h event)

theorem create_unfinished :
    (create garbage cachedCipher).Unfinished := by
  intro stream hstream
  cases hstream

/-!
## Connecting again
-/

theorem getStream_lost (s : Session cipher) (streamType : StreamType) :
    (Stream.getStream streamType s.lost.stream).currentState =
      StreamState.unconnected := by
  cases hold : s.stream with
  | none =>
      rw [lost, closed, closing, hold]
      rfl
  | some stream =>
      rw [lost, closed, closing, hold]
      change (Stream.getStream streamType
        (some stream.closing.closed)).currentState = _
      rw [Stream.getStream]
      split
      · rw [Stream.closing]
        split
        · rename_i hdown
          rw [Stream.closed, if_neg (by rw [hdown]; decide)]
          exact hdown
        · rfl
      · rfl

theorem establish_lost (s : Session cipher) (streamType : StreamType) :
    s.lost.establish cachedCipher streamType =
      ofReceiver
        { stream :=
            (Stream.getStream streamType s.lost.stream).setState
              StreamState.connected
          inputBuffer := s.inputBuffer.onConnected
          inputEnc := cachedCipher } := by
  have hdown := getStream_lost s streamType
  rw [establish, connect, Stream.connect, if_pos hdown]
  rfl

theorem establish_create (streamType : StreamType) :
    (create garbage cachedCipher).establish cachedCipher streamType =
      ofReceiver (Receiver.start garbage streamType cachedCipher) := rfl

theorem handleBody_currentState (r : Receiver cipher) :
    (r.handleBody T garbage).1.stream.currentState =
      r.stream.currentState := by
  unfold Receiver.handleBody
  split
  · rfl
  · split
    · rfl
    · rfl

theorem loopBody_currentState {r r' : Receiver cipher} {out : List Message}
    (h : r.loopBody T garbage = some (r', out)) :
    r'.stream.currentState = r.stream.currentState := by
  unfold Receiver.loopBody at h
  split at h
  · cases h
  split at h
  · have hstate := handleBody_currentState T garbage (r.readHeader T)
    rw [Option.some.inj h] at hstate
    exact hstate
  · have hstate := handleBody_currentState T garbage r
    rw [Option.some.inj h] at hstate
    exact hstate

theorem onDataReceived_currentState (r : Receiver cipher) :
    (r.onDataReceived T garbage).1.stream.currentState =
      r.stream.currentState := by
  induction r using Receiver.onDataReceived.induct T garbage with
  | case1 r hbody =>
      rw [Receiver.onDataReceived_of_none T garbage hbody]
  | case2 r r' out hbody hagain ih =>
      rw [Receiver.onDataReceived_of_some T garbage hbody, if_pos hagain,
        ← loopBody_currentState T garbage hbody]
      exact ih
  | case3 r r' out hbody hagain =>
      rw [Receiver.onDataReceived_of_some T garbage hbody, if_neg hagain]
      exact loopBody_currentState T garbage hbody

theorem dataReceived_currentState (r : Receiver cipher)
    (data : List UInt8) :
    (r.dataReceived T garbage data).1.stream.currentState =
      r.stream.currentState := by
  unfold Receiver.dataReceived
  split
  · rfl
  · exact onDataReceived_currentState T garbage _

theorem dispatched_ofReceiver {r : Receiver cipher}
    (h : r.stream.currentState = StreamState.connected)
    (chunks : List (List UInt8)) :
    (ofReceiver r).dispatched T garbage cachedCipher chunks =
      r.dispatched T garbage chunks := by
  induction chunks generalizing r with
  | nil => rfl
  | cons chunk rest ih =>
      have hreading : r.stream.reading = true := by
        rw [Stream.reading, h]
        rfl
      have hstep : (ofReceiver r).step T garbage cachedCipher
          (SessionEvent.received chunk) =
          (ofReceiver (r.dataReceived T garbage chunk).1,
            (r.dataReceived T garbage chunk).2) := by
        change (ofReceiver r).received T garbage chunk = _
        unfold received
        exact if_pos hreading
      have hrest := ih ((dataReceived_currentState T garbage r chunk).trans h)
      unfold dispatched at hrest ⊢
      rw [List.map_cons, run, hstep]
      simp only [List.map_append, hrest]
      rw [Receiver.dispatched, Receiver.dispatched, Receiver.receiveAll,
        List.map_append]

end Session

end Net
end Rzu
