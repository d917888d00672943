import Rzu.Library.DoWhile
import Rzu.Net.Session

/-!
# Sessions with handlers

A packet handler may close or abort the session that calls it.  Closing lets
the stream finish what it has to write, and libuv still reads from the socket
meanwhile; aborting closes the handle at once.  Neither leaves the receive
loop, which goes on with the bytes that it has.
-/

namespace Rzu
namespace Net

open Library

/-- What the code of a session asks of its own connection. -/
inductive SessionCall where
  | abortSession
  | closeSession
deriving DecidableEq, Repr

/-- The handlers of a session, with the data that they keep. -/
structure Handler (state : Type) where
  onPacketReceived : state -> Message -> state × List SessionCall

/-- What happens on a session, seen from its handlers. -/
inductive Observation where
  | connected
  | dispatched (message : Message)
  | aborted
deriving DecidableEq, Repr

def SessionCall.observed : SessionCall -> List Observation
  | SessionCall.abortSession => [Observation.aborted]
  | SessionCall.closeSession => []

/-!
## The connection under a handler
-/

/-- The state of the stream, whether its socket is read, and the handler. -/
structure Link (state : Type) where
  currentState : StreamState
  reading : Bool
  handler : state
deriving DecidableEq, Repr

namespace Link

variable {state : Type}

def down (l : Link state) : Bool :=
  l.currentState == StreamState.closing ||
    l.currentState == StreamState.unconnected

/-- `Stream::abort` closes the handle, unless the stream is closing. -/
def abort (l : Link state) : Link state :=
  if l.down = true then l
  else { l with currentState := StreamState.closing, reading := false }

/-- `Stream::close` shuts a connected stream down before it is closed. -/
def close (l : Link state) : Link state :=
  if l.down = true then l
  else
    { l with
      currentState := StreamState.closing
      reading :=
        l.reading && l.currentState == StreamState.connected }

def call (l : Link state) : SessionCall -> Link state
  | SessionCall.abortSession => l.abort
  | SessionCall.closeSession => l.close

def perform (l : Link state) : List SessionCall -> Link state
  | [] => l
  | call :: rest => (l.call call).perform rest

/-- `dispatchPacket` -/
def dispatch (H : Handler state) (l : Link state) (message : Message) :
    Link state × List Observation :=
  let result := H.onPacketReceived l.handler message
  (({ l with handler := result.1 } : Link state).perform result.2,
    Observation.dispatched message ::
      (result.2.map SessionCall.observed).flatten)

def dispatchAll (H : Handler state) (l : Link state) :
    List Message -> Link state × List Observation
  | [] => (l, [])
  | message :: rest =>
      let first := l.dispatch H message
      let later := dispatchAll H first.1 rest
      (later.1, first.2 ++ later.2)

theorem dispatchAll_append (H : Handler state) (l : Link state)
    (xs ys : List Message) :
    l.dispatchAll H (xs ++ ys) =
      (((l.dispatchAll H xs).1.dispatchAll H ys).1,
        (l.dispatchAll H xs).2 ++
          ((l.dispatchAll H xs).1.dispatchAll H ys).2) := by
  induction xs generalizing l with
  | nil => rfl
  | cons message rest ih =>
      rw [List.cons_append, dispatchAll, dispatchAll, ih,
        List.append_assoc]

/-- The peer has closed its side: libuv stops reading. -/
def endOfFile (l : Link state) : Link state :=
  { l.close with reading := false }

/-- The shutdown is done, and the handle is closed next. -/
def shutdownDone (l : Link state) : Link state :=
  if l.currentState = StreamState.closing then { l with reading := false }
  else l

def connectionClosed (l : Link state) : Link state :=
  if l.currentState = StreamState.closing then
    { l with currentState := StreamState.unconnected, reading := false }
  else l

def connected (l : Link state) : Link state × List Observation :=
  if l.currentState = StreamState.connecting then
    ({ l with currentState := StreamState.connected, reading := true },
      [Observation.connected])
  else
    (l, [])

end Link

/-!
## The receive loop with a handler
-/

def Receiver.withState {cipher : Type} (r : Receiver cipher)
    (currentState : StreamState) : Receiver cipher :=
  { r with stream := r.stream.setState currentState }

/-- A session in the middle of `onDataReceived`. -/
structure Serving (cipher state : Type) where
  receiver : Receiver cipher
  reading : Bool
  handler : state

namespace Serving

variable {cipher state : Type} (T : ByteTransform cipher)
variable (garbage : Nat -> UInt8) (H : Handler state)

def link (s : Serving cipher state) : Link state where
  currentState := s.receiver.stream.currentState
  reading := s.reading
  handler := s.handler

/-- What the handlers have left of a session whose loop has moved on. -/
def moved (r : Receiver cipher) (l : Link state) : Serving cipher state where
  receiver := r.withState l.currentState
  reading := l.reading
  handler := l.handler

/-- One pass of the receive loop, which hands its message to the handler. -/
def loopBody (s : Serving cipher state) :
    Option (Serving cipher state × List Observation) :=
  (s.receiver.loopBody T garbage).map fun pass =>
    (moved pass.1 (s.link.dispatchAll H pass.2).1,
      (s.link.dispatchAll H pass.2).2)

theorem loopBody_length_lt {s s' : Serving cipher state}
    {out : List Observation}
    (h : s.loopBody T garbage H = some (s', out))
    (hagain : s'.receiver.loopAgain = true) :
    s'.receiver.stream.recvBuffer.length <
      s.receiver.stream.recvBuffer.length := by
  rcases Option.map_eq_some_iff.mp h with ⟨⟨r, messages⟩, hpass, heq⟩
  cases heq
  have hplain : r.loopAgain = true := hagain
  have hlt := Receiver.loopBody_length_lt T garbage hpass hplain
  exact hlt

def receiveLoop : DoWhile (Serving cipher state) Observation where
  body s := s.loopBody T garbage H
  again s := s.receiver.loopAgain
  measure s := s.receiver.stream.recvBuffer.length
  decreases h hagain := loopBody_length_lt T garbage H h hagain

/-- `onDataReceived`, with the handlers that it calls. -/
def onDataReceived (s : Serving cipher state) :
    Serving cipher state × List Observation :=
  (receiveLoop T garbage H).run s

@[simp] theorem link_moved (r : Receiver cipher) (l : Link state) :
    (moved r l : Serving cipher state).link = l := rfl

@[simp] theorem moved_receiver (r : Receiver cipher) (l : Link state) :
    (moved r l : Serving cipher state).receiver =
      r.withState l.currentState := rfl

end Serving

namespace Receiver

variable {cipher : Type} (T : ByteTransform cipher)
variable (garbage : Nat -> UInt8)

theorem withState_inputBuffer (r : Receiver cipher)
    (currentState : StreamState) :
    (r.withState currentState).inputBuffer = r.inputBuffer := rfl

theorem withState_getAvailableBytes (r : Receiver cipher)
    (currentState : StreamState) :
    (r.withState currentState).stream.getAvailableBytes =
      r.stream.getAvailableBytes := rfl

theorem withState_loopAgain (r : Receiver cipher)
    (currentState : StreamState) :
    (r.withState currentState).loopAgain = r.loopAgain := rfl

theorem handleBody_withState (r : Receiver cipher)
    (currentState : StreamState) :
    (r.withState currentState).handleBody T garbage =
      ((r.handleBody T garbage).1.withState currentState,
        (r.handleBody T garbage).2) := by
  unfold handleBody
  rw [withState_inputBuffer, withState_getAvailableBytes]
  by_cases hskip : r.inputBuffer.currentMessageSize ≠ 0 ∧
      r.inputBuffer.discardPacket = true
  · rw [if_pos hskip, if_pos hskip]
    rfl
  · rw [if_neg hskip, if_neg hskip]
    by_cases hbody : r.inputBuffer.currentMessageSize ≠ 0 ∧
        r.stream.getAvailableBytes ≥ r.inputBuffer.currentMessageSize
    · rw [if_pos hbody, if_pos hbody]
      rfl
    · rw [if_neg hbody, if_neg hbody]

theorem loopBody_withState (r : Receiver cipher)
    (currentState : StreamState) :
    (r.withState currentState).loopBody T garbage =
      (r.loopBody T garbage).map fun pass =>
        (pass.1.withState currentState, pass.2) := by
  unfold loopBody
  rw [withState_inputBuffer, withState_getAvailableBytes]
  by_cases hbreak : r.inputBuffer.currentMessageSize = 0 ∧
      r.stream.getAvailableBytes < 4
  · rw [if_pos hbreak, if_pos hbreak]
    rfl
  · rw [if_neg hbreak, if_neg hbreak]
    by_cases hzero : r.inputBuffer.currentMessageSize = 0
    · rw [if_pos hzero, if_pos hzero, Option.map_some]
      exact congrArg some
        (handleBody_withState T garbage (r.readHeader T) currentState)
    · rw [if_neg hzero, if_neg hzero, Option.map_some,
        handleBody_withState]

theorem onDataReceived_withState (r : Receiver cipher)
    (currentState : StreamState) :
    (r.withState currentState).onDataReceived T garbage =
      ((r.onDataReceived T garbage).1.withState currentState,
        (r.onDataReceived T garbage).2) := by
  induction r using onDataReceived.induct T garbage with
  | case1 r hbody =>
      have hbody' := loopBody_withState T garbage r currentState
      rw [hbody] at hbody'
      rw [onDataReceived_of_none T garbage hbody,
        onDataReceived_of_none T garbage hbody']
  | case2 r r' out hbody hagain ih =>
      have hbody' := loopBody_withState T garbage r currentState
      rw [hbody] at hbody'
      rw [onDataReceived_of_some T garbage hbody, if_pos hagain,
        onDataReceived_of_some T garbage hbody', withState_loopAgain,
        if_pos hagain, ih]
  | case3 r r' out hbody hagain =>
      have hbody' := loopBody_withState T garbage r currentState
      rw [hbody] at hbody'
      rw [onDataReceived_of_some T garbage hbody, if_neg hagain,
        onDataReceived_of_some T garbage hbody', withState_loopAgain,
        if_neg hagain]

end Receiver

namespace Serving

variable {cipher state : Type} (T : ByteTransform cipher)
variable (garbage : Nat -> UInt8) (H : Handler state)

theorem onDataReceived_eq (s : Serving cipher state) :
    s.onDataReceived T garbage H =
      (moved (s.receiver.onDataReceived T garbage).1
          (s.link.dispatchAll H
            (s.receiver.onDataReceived T garbage).2).1,
        (s.link.dispatchAll H
          (s.receiver.onDataReceived T garbage).2).2) := by
  rw [onDataReceived]
  induction s using DoWhile.run.induct (receiveLoop T garbage H) with
  | case1 s hnone =>
      have hplain := Option.map_eq_none_iff.mp hnone
      rw [DoWhile.run_of_none _ hnone,
        Receiver.onDataReceived_of_none T garbage hplain]
      rfl
  | case2 s s' out hsome hagain ih =>
      rcases Option.map_eq_some_iff.mp hsome with ⟨pass, hplain, heq⟩
      cases heq
      have hplainAgain : pass.1.loopAgain = true := hagain
      rw [DoWhile.run_of_some _ hsome, if_pos hagain, ih,
        Receiver.onDataReceived_of_some T garbage hplain,
        if_pos hplainAgain, link_moved, moved_receiver,
        Receiver.onDataReceived_withState, Link.dispatchAll_append]
      rfl
  | case3 s s' out hsome hagain =>
      rcases Option.map_eq_some_iff.mp hsome with ⟨pass, hplain, heq⟩
      cases heq
      have hplainAgain : ¬pass.1.loopAgain = true := hagain
      rw [DoWhile.run_of_some _ hsome, if_neg hagain,
        Receiver.onDataReceived_of_some T garbage hplain,
        if_neg hplainAgain]

end Serving

/-!
## The life of a session with handlers
-/

/-- A session object, its handlers, and whether libuv reads its socket. -/
structure Attended (cipher state : Type) where
  session : Session cipher
  reading : Bool
  handler : state

inductive AttendedEvent where
  /-- `connect` is called. -/
  | connect (streamType : StreamType)
  /-- The stream reports that the connection is there. -/
  | connected
  /-- The socket has data. -/
  | received (data : List UInt8)
  /-- The session's own code aborts or closes it outside of a packet. -/
  | call (call : SessionCall)
  /-- The peer closes the connection. -/
  | endOfFile
  /-- An error on the stream, or a reset by the peer. -/
  | failed
  | shutdownDone
  | connectionClosed

namespace Attended

variable {cipher state : Type} (T : ByteTransform cipher)
variable (garbage : Nat -> UInt8) (cachedCipher : cipher)
variable (H : Handler state)

def create (handler : state) : Attended cipher state where
  session := Session.create garbage cachedCipher
  reading := false
  handler := handler

/-- `getState` -/
def currentState (session : Session cipher) : StreamState :=
  match session.stream with
  | none => StreamState.unconnected
  | some stream => stream.currentState

def link (a : Attended cipher state) : Link state where
  currentState := currentState a.session
  reading := a.reading
  handler := a.handler

def withLink (a : Attended cipher state) (l : Link state) :
    Attended cipher state where
  session :=
    { a.session with
      stream := a.session.stream.map fun stream =>
        stream.setState l.currentState }
  reading := l.reading
  handler := l.handler

/-- Another kind of stream is a new one, which is not read yet. -/
def connect (a : Attended cipher state) (streamType : StreamType) :
    Attended cipher state where
  session := a.session.connect cachedCipher streamType
  reading :=
    a.reading && a.session.stream.map Stream.streamType == some streamType
  handler := a.handler

/-- `onConnected` resets the input buffer. -/
def connected (a : Attended cipher state) :
    Attended cipher state × List Observation :=
  (({ a with session := a.session.connected } :
      Attended cipher state).withLink a.link.connected.1,
    a.link.connected.2)

def ofServing (s : Serving cipher state) : Attended cipher state where
  session := Session.ofReceiver s.receiver
  reading := s.reading
  handler := s.handler

def received (a : Attended cipher state) (data : List UInt8) :
    Attended cipher state × List Observation :=
  match a.session.stream with
  | none => (a, [])
  | some stream =>
      if a.reading = true ∧ data ≠ [] then
        let result := Serving.onDataReceived T garbage H
          { receiver := a.session.receiver (stream.appendReceived data)
            reading := a.reading
            handler := a.handler }
        (ofServing result.1, result.2)
      else (a, [])

def step (a : Attended cipher state) : AttendedEvent ->
    Attended cipher state × List Observation
  | AttendedEvent.connect streamType =>
      (a.connect cachedCipher streamType, [])
  | AttendedEvent.connected => a.connected
  | AttendedEvent.received data => a.received T garbage H data
  | AttendedEvent.call call =>
      (a.withLink (a.link.call call), call.observed)
  | AttendedEvent.endOfFile => (a.withLink a.link.endOfFile, [])
  | AttendedEvent.failed => (a.withLink a.link.abort, [])
  | AttendedEvent.shutdownDone => (a.withLink a.link.shutdownDone, [])
  | AttendedEvent.connectionClosed =>
      (a.withLink a.link.connectionClosed, [])

def run (a : Attended cipher state) : List AttendedEvent ->
    Attended cipher state × List Observation
  | [] => (a, [])
  | event :: rest =>
      let first := a.step T garbage cachedCipher H event
      let later := run first.1 rest
      (later.1, first.2 ++ later.2)

/-- The messages that the buffered bytes and some more make complete. -/
def messages (a : Attended cipher state) (data : List UInt8) :
    List Message :=
  match a.session.stream with
  | none => []
  | some stream =>
      if a.reading = true ∧ data ≠ [] then
        ((a.session.receiver (stream.appendReceived data)).onDataReceived
          T garbage).2
      else []

theorem received_link (a : Attended cipher state) (data : List UInt8) :
    ((a.received T garbage H data).1.link,
      (a.received T garbage H data).2) =
        a.link.dispatchAll H (a.messages T garbage data) := by
  unfold received messages
  cases hstream : a.session.stream with
  | none => rfl
  | some stream =>
      simp only
      split
      · rw [Serving.onDataReceived_eq]
        have hlink : a.link =
            { currentState := stream.currentState
              reading := a.reading
              handler := a.handler } := by
          rw [link, currentState, hstream]
        rw [hlink]
        rfl
      · rfl

end Attended

end Net
end Rzu
