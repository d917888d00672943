import Rzu.Cipher.RC4Cipher
import Rzu.Library.Run
import Rzu.Net.Stream

/-!
# The output cipher and the transport

An encrypted session encodes what it writes before its stream decides whether
to take it, and starts its ciphers anew before its stream decides whether to
connect.  The position in the key stream is compared with the number of bytes
that the transport took on the connection.
-/

namespace Rzu
namespace Net

open Library

namespace Stream

/-- `WriteRequest::create` stores the size of its data as an `int`. -/
def WriteRequest.bufferLen (dataSize : Nat) : Nat :=
  if dataSize % 4294967296 < 2147483648 then dataSize % 4294967296
  else 18446744073709551616 - 4294967296 + dataSize % 4294967296

/--
`Stream::write`, given the result of `uv_write`: what it returns, which is the
number of bytes that the transport takes.
-/
def write (stream : Stream) (bufferLen : Nat) (result : Int) : Nat × Stream :=
  if stream.currentState = StreamState.connected then
    if result < 0 then (0, stream.setState StreamState.closing)
    else (bufferLen, stream)
  else (0, stream)

def refuses (stream : Stream) (result : Int) : Prop :=
  stream.currentState ≠ StreamState.connected ∨ result < 0

theorem write_of_refuses {stream : Stream} {result : Int}
    (h : stream.refuses result) (bufferLen : Nat) :
    (stream.write bufferLen result).1 = 0 := by
  rw [write]
  split
  · rename_i hconnected
    cases h with
    | inl hstate => exact absurd hconnected hstate
    | inr hresult => rw [if_pos hresult]
  · rfl

theorem write_of_not_refuses {stream : Stream} {result : Int}
    (h : ¬stream.refuses result) (bufferLen : Nat) :
    stream.write bufferLen result = (bufferLen, stream) := by
  rcases not_or.mp h with ⟨hstate, hresult⟩
  rw [write, if_pos (not_not.mp hstate), if_neg hresult]

end Stream

structure Sender (key : Type) where
  stream : Option Stream
  outputEnc : key
  /-- The bytes encoded since the cipher started. -/
  position : Nat
  /-- The bytes that the transport took on the present connection. -/
  handed : Nat

inductive SenderEvent where
  | connect (streamType : StreamType)
  /-- A callback of libuv, `close` or `abort` moves the stream on. -/
  | stateChanged (state : StreamState)
  /-- A write request, and what `uv_write` says to it. -/
  | writeRequest (buffer : List UInt8) (result : Int)
  /-- A buffer that is copied first. -/
  | write (buffer : List UInt8) (result : Int)

namespace Sender

variable {key : Type} (C : StreamCipher key) (cachedCipher : key)

/-- A session that has no stream yet, or one that a server accepted. -/
def opened (stream : Option Stream) : Sender key where
  stream := stream
  outputEnc := cachedCipher
  position := 0
  handed := 0

def initRC4Cipher (s : Sender key) : Sender key :=
  { s with
    outputEnc := cachedCipher
    position := 0 }

/-- `EncryptedSession::connect`. -/
def connect (s : Sender key) (streamType : StreamType) : Sender key :=
  let s := s.initRC4Cipher cachedCipher
  let newStream := Stream.getStream streamType s.stream
  match newStream.connect with
  | none => { s with stream := some newStream }
  | some connecting =>
      { s with
        stream := some connecting
        handed := 0 }

/-- A stream leaves the unconnected state by `connect` alone. -/
def stateChanged (s : Sender key) (state : StreamState) :
    Option (Sender key) :=
  match s.stream with
  | none => none
  | some stream =>
      if stream.currentState = StreamState.unconnected then none
      else some { s with stream := some (stream.setState state) }

/-- Encode a buffer, then pass a request of some length to the stream. -/
def encodeAndWrite (s : Sender key) (buffer : List UInt8) (bufferLen : Nat)
    (result : Int) : Option (Sender key) :=
  match s.stream with
  | none => none
  | some stream =>
      some
        { stream := some (stream.write bufferLen result).2
          outputEnc := (C.encode s.outputEnc buffer).2
          position := s.position + buffer.length
          handed := s.handed + (stream.write bufferLen result).1 }

/-- `EncryptedSession::write` of a write request. -/
def writeRequest (s : Sender key) (buffer : List UInt8) (result : Int) :
    Option (Sender key) :=
  s.encodeAndWrite C buffer buffer.length result

/-- `EncryptedSession::write` of a buffer. -/
def write (s : Sender key) (buffer : List UInt8) (result : Int) :
    Option (Sender key) :=
  s.encodeAndWrite C buffer (Stream.WriteRequest.bufferLen buffer.length)
    result

/-- Without a stream, a write follows a null pointer. -/
def next (s : Sender key) : SenderEvent -> Option (Sender key)
  | SenderEvent.connect streamType =>
      some (s.connect cachedCipher streamType)
  | SenderEvent.stateChanged state => s.stateChanged state
  | SenderEvent.writeRequest buffer result => s.writeRequest C buffer result
  | SenderEvent.write buffer result => s.write C buffer result

def step (s : Sender key) (event : SenderEvent) (s' : Sender key) : Prop :=
  s.next C cachedCipher event = some s'

theorem step_deterministic :
    Deterministic (step C cachedCipher) := by
  intro s event s' s'' h h'
  exact Option.some.inj (h.symm.trans h')

def Refused (s : Sender key) : SenderEvent -> Prop
  | SenderEvent.connect _ => False
  | SenderEvent.stateChanged _ => False
  | SenderEvent.writeRequest _ result =>
      exists stream, s.stream = some stream ∧ stream.refuses result
  | SenderEvent.write _ result =>
      exists stream, s.stream = some stream ∧ stream.refuses result

/-- A refused write leaves the position as it is. -/
def RefusalKeeps (s : Sender key) (event : SenderEvent) (s' : Sender key) :
    Prop :=
  s.Refused event -> s'.position = s.position

def KeyAtPosition (s : Sender key) : Prop :=
  s.outputEnc = C.advance cachedCipher s.position

def InStep (s : Sender key) : Prop :=
  s.position = s.handed

/--
The steps that the cipher does not survive: a refused write of some bytes, a
buffer whose size is no `int`, and a refused `connect` on a connection that
has taken bytes.
-/
def LosesStep (s : Sender key) : SenderEvent -> Prop
  | SenderEvent.connect streamType =>
      (Stream.getStream streamType s.stream).currentState ≠
          StreamState.unconnected ∧
        s.handed ≠ 0
  | SenderEvent.stateChanged _ => False
  | SenderEvent.writeRequest buffer result =>
      s.Refused (SenderEvent.writeRequest buffer result) ∧ buffer ≠ []
  | SenderEvent.write buffer result =>
      s.Refused (SenderEvent.write buffer result) ∧ buffer ≠ [] ∨
        ¬s.Refused (SenderEvent.write buffer result) ∧
          Stream.WriteRequest.bufferLen buffer.length ≠ buffer.length

/-!
## What a step does
-/

section Steps

variable {C} {cachedCipher} {s s' : Sender key}

theorem connect_position (streamType : StreamType) :
    (s.connect cachedCipher streamType).position = 0 := by
  rw [connect]
  split
  · rfl
  · rfl

theorem connect_outputEnc (streamType : StreamType) :
    (s.connect cachedCipher streamType).outputEnc = cachedCipher := by
  rw [connect]
  split
  · rfl
  · rfl

theorem connect_handed (streamType : StreamType) :
    (s.connect cachedCipher streamType).handed =
      if (Stream.getStream streamType s.stream).currentState =
        StreamState.unconnected then 0 else s.handed := by
  rw [connect]
  dsimp only [initRC4Cipher]
  rw [Stream.connect]
  split
  · rename_i h
    rw [if_neg]
    intro hstate
    rw [if_pos hstate] at h
    cases h
  · rename_i h
    rw [if_pos]
    by_contra hstate
    rw [if_neg hstate] at h
    cases h

theorem stateChanged_eq {state : StreamState}
    (h : s.stateChanged state = some s') :
    exists stream, s' = { s with stream := some stream } := by
  rw [stateChanged] at h
  split at h
  · cases h
  · split at h
    · cases h
    · exact ⟨_, (Option.some.inj h).symm⟩

theorem encodeAndWrite_eq {buffer : List UInt8} {bufferLen : Nat}
    {result : Int} (h : s.encodeAndWrite C buffer bufferLen result = some s') :
    exists stream, s.stream = some stream ∧
      s'.outputEnc = C.advance s.outputEnc buffer.length ∧
      s'.position = s.position + buffer.length ∧
      s'.handed = s.handed + (stream.write bufferLen result).1 := by
  rw [encodeAndWrite] at h
  split at h
  · cases h
  · rename_i stream hstream
    cases h
    exact ⟨stream, hstream, StreamCipher.encode_state C _ _, rfl, rfl⟩

theorem handed_of_refused {buffer : List UInt8} {bufferLen : Nat}
    {result : Int} (h : s.encodeAndWrite C buffer bufferLen result = some s')
    (hrefused : exists stream, s.stream = some stream ∧
      stream.refuses result) :
    s'.handed = s.handed := by
  rcases encodeAndWrite_eq h with ⟨stream, hstream, -, -, hhanded⟩
  rcases hrefused with ⟨stream', hstream', hrefuses⟩
  rw [hstream] at hstream'
  cases hstream'
  rw [hhanded, Stream.write_of_refuses hrefuses, Nat.add_zero]

theorem handed_of_not_refused {buffer : List UInt8} {bufferLen : Nat}
    {result : Int} (h : s.encodeAndWrite C buffer bufferLen result = some s')
    (hrefused : ¬exists stream, s.stream = some stream ∧
      stream.refuses result) :
    s'.handed = s.handed + bufferLen := by
  rcases encodeAndWrite_eq h with ⟨stream, hstream, -, -, hhanded⟩
  have haccepts : ¬stream.refuses result :=
    fun hrefuses => hrefused ⟨stream, hstream, hrefuses⟩
  rw [hhanded, Stream.write_of_not_refuses haccepts]

theorem not_inStep_of_refused {buffer : List UInt8} {bufferLen : Nat}
    {result : Int} (hinStep : s.InStep)
    (h : s.encodeAndWrite C buffer bufferLen result = some s')
    (hrefused : exists stream, s.stream = some stream ∧
      stream.refuses result) :
    s'.InStep ↔ buffer = [] := by
  rcases encodeAndWrite_eq h with ⟨-, -, -, hposition, -⟩
  rw [InStep, hposition, handed_of_refused h hrefused, hinStep,
    ← List.length_eq_zero_iff]
  lia

theorem inStep_of_not_refused {buffer : List UInt8} {bufferLen : Nat}
    {result : Int} (hinStep : s.InStep)
    (h : s.encodeAndWrite C buffer bufferLen result = some s')
    (hrefused : ¬exists stream, s.stream = some stream ∧
      stream.refuses result) :
    s'.InStep ↔ bufferLen = buffer.length := by
  rcases encodeAndWrite_eq h with ⟨-, -, -, hposition, -⟩
  rw [InStep, hposition, handed_of_not_refused h hrefused, hinStep]
  lia

theorem inStep_connect_iff (streamType : StreamType) :
    (s.connect cachedCipher streamType).InStep ↔
      ¬s.LosesStep (SenderEvent.connect streamType) := by
  rw [InStep, connect_position, connect_handed, LosesStep]
  split
  · rename_i hstate
    constructor
    · intro _ hloses
      exact hloses.left hstate
    · intro _
      rfl
  · rename_i hstate
    constructor
    · intro hzero hloses
      exact hloses.right hzero.symm
    · intro hkeeps
      by_contra hhanded
      exact hkeeps ⟨hstate, fun hzero => hhanded hzero.symm⟩

theorem inStep_step_iff {event : SenderEvent} (hinStep : s.InStep)
    (h : step C cachedCipher s event s') :
    s'.InStep ↔ ¬s.LosesStep event := by
  cases event with
  | connect streamType =>
      cases Option.some.inj h
      exact inStep_connect_iff streamType
  | stateChanged state =>
      rcases stateChanged_eq h with ⟨stream, heq⟩
      rw [heq]
      exact ⟨fun _ hloses => hloses, fun _ => hinStep⟩
  | writeRequest buffer result =>
      by_cases hrefused : s.Refused (SenderEvent.writeRequest buffer result)
      · rw [not_inStep_of_refused hinStep h hrefused, LosesStep, not_and,
          not_not]
        exact ⟨fun hempty _ => hempty, fun hempty => hempty hrefused⟩
      · rw [inStep_of_not_refused hinStep h hrefused]
        exact ⟨fun _ hloses => hrefused hloses.left, fun _ => rfl⟩
  | write buffer result =>
      by_cases hrefused : s.Refused (SenderEvent.write buffer result)
      · rw [not_inStep_of_refused hinStep h hrefused, LosesStep]
        simp only [hrefused, true_and, not_true_eq_false, false_and,
          or_false, not_not]
      · rw [inStep_of_not_refused hinStep h hrefused, LosesStep]
        simp only [hrefused, false_and, false_or, not_false_eq_true,
          true_and, not_not]

theorem refusalKeeps_of_not_losesStep {event : SenderEvent}
    (h : step C cachedCipher s event s') (hkeeps : ¬s.LosesStep event) :
    s.RefusalKeeps event s' := by
  intro hrefused
  cases event with
  | connect streamType => exact hrefused.elim
  | stateChanged state => exact hrefused.elim
  | writeRequest buffer result =>
      have hempty : buffer = [] := by
        by_contra hbytes
        exact hkeeps ⟨hrefused, hbytes⟩
      rcases encodeAndWrite_eq h with ⟨-, -, -, hposition, -⟩
      rw [hposition, hempty]
      rfl
  | write buffer result =>
      have hempty : buffer = [] := by
        by_contra hbytes
        exact hkeeps (Or.inl ⟨hrefused, hbytes⟩)
      rcases encodeAndWrite_eq h with ⟨-, -, -, hposition, -⟩
      rw [hposition, hempty]
      rfl

theorem keyAtPosition_step {event : SenderEvent}
    (hkey : s.KeyAtPosition C cachedCipher)
    (h : step C cachedCipher s event s') :
    s'.KeyAtPosition C cachedCipher := by
  rw [KeyAtPosition] at hkey ⊢
  cases event with
  | connect streamType =>
      cases Option.some.inj h
      rw [connect_outputEnc, connect_position]
      rfl
  | stateChanged state =>
      rcases stateChanged_eq h with ⟨stream, heq⟩
      rw [heq]
      exact hkey
  | writeRequest buffer result =>
      rcases encodeAndWrite_eq h with ⟨-, -, henc, hposition, -⟩
      rw [henc, hposition, hkey, StreamCipher.advance_add]
  | write buffer result =>
      rcases encodeAndWrite_eq h with ⟨-, -, henc, hposition, -⟩
      rw [henc, hposition, hkey, StreamCipher.advance_add]

end Steps

/--
All along a run refused writes keep the position, and the position counts the
bytes that the transport took on the present connection.
-/
def KeepsStep (start : Option Stream) (history : List SenderEvent) : Prop :=
  AtEachStep (step C cachedCipher) (opened cachedCipher start) RefusalKeeps
      history ∧
    Throughout (step C cachedCipher) (opened cachedCipher start) InStep
      history

/--
The output cipher is as far as its position says.  It stays in step all along
a run exactly if no step of the run loses it.
-/
theorem keepsStep_iff (start : Option Stream) {history : List SenderEvent}
    {s : Sender key}
    (hrun : Run (step C cachedCipher) (opened cachedCipher start) history s) :
    s.outputEnc = C.advance cachedCipher s.position ∧
      (KeepsStep C cachedCipher start history ↔
        Avoids (step C cachedCipher) (opened cachedCipher start) LosesStep
          history) := by
  have hkey : s.KeyAtPosition C cachedCipher := by
    apply Run.invariant _ keyAtPosition_step hrun
    rfl
  refine ⟨hkey, ?_⟩
  have hthroughout : Throughout (step C cachedCipher)
      (opened cachedCipher start) InStep history ↔
        Avoids (step C cachedCipher) (opened cachedCipher start) LosesStep
          history := by
    have hstart : (opened cachedCipher start).InStep := rfl
    exact throughout_iff_avoids_of_exact (step_deterministic C cachedCipher)
      hstart inStep_step_iff hrun
  rw [KeepsStep, hthroughout, and_iff_right_iff_imp]
  intro havoids before event after mid next heq hmid hstep
  exact refusalKeeps_of_not_losesStep hstep
    (havoids before event after mid heq hmid)

/-- A session that connects and sends two bytes. -/
theorem keepsStep_iff_sent :
    2 = (StreamCipher.ofKeystream fun _ => 0).advance 0 2 ∧
      (KeepsStep (StreamCipher.ofKeystream fun _ => 0) 0 none
          [SenderEvent.connect StreamType.socket,
            SenderEvent.stateChanged StreamState.connected,
            SenderEvent.writeRequest [1, 2] 0] ↔
        Avoids (step (StreamCipher.ofKeystream fun _ => 0) 0)
          (opened 0 none) LosesStep
          [SenderEvent.connect StreamType.socket,
            SenderEvent.stateChanged StreamState.connected,
            SenderEvent.writeRequest [1, 2] 0]) := by
  have hconnect : Run (step (StreamCipher.ofKeystream fun _ => 0) 0)
      (opened 0 none) [SenderEvent.connect StreamType.socket]
      ((opened 0 none).connect 0 StreamType.socket) :=
    Run.snoc Run.nil rfl
  have hconnected : Run (step (StreamCipher.ofKeystream fun _ => 0) 0)
      (opened 0 none)
      [SenderEvent.connect StreamType.socket,
        SenderEvent.stateChanged StreamState.connected]
      (opened 0
        (some (Stream.mk StreamType.socket StreamState.connected []))) :=
    Run.snoc hconnect rfl
  have hsent : Run (step (StreamCipher.ofKeystream fun _ => 0) 0)
      (opened 0 none)
      [SenderEvent.connect StreamType.socket,
        SenderEvent.stateChanged StreamState.connected,
        SenderEvent.writeRequest [1, 2] 0]
      (Sender.mk
        (some (Stream.mk StreamType.socket StreamState.connected [])) 2 2 2) :=
    Run.snoc hconnected rfl
  exact keepsStep_iff (StreamCipher.ofKeystream fun _ => 0) 0 none hsent

/-- A byte written while the stream still connects moves the RC4 cipher. -/
theorem not_keepsStep_connecting :
    ¬KeepsStep Cipher.rc4 Cipher.encryptedSessionCachedCipher none
      [SenderEvent.connect StreamType.socket,
        SenderEvent.writeRequest [1] 0] := by
  intro hkeeps
  have hconnect : Run
      (step Cipher.rc4 Cipher.encryptedSessionCachedCipher)
      (opened Cipher.encryptedSessionCachedCipher none)
      [SenderEvent.connect StreamType.socket]
      ((opened Cipher.encryptedSessionCachedCipher none).connect
        Cipher.encryptedSessionCachedCipher StreamType.socket) :=
    Run.snoc Run.nil rfl
  have hwrite : Run
      (step Cipher.rc4 Cipher.encryptedSessionCachedCipher)
      (opened Cipher.encryptedSessionCachedCipher none)
      [SenderEvent.connect StreamType.socket,
        SenderEvent.writeRequest [1] 0]
      (Sender.mk
        (some (Stream.mk StreamType.socket StreamState.connecting []))
        Cipher.encryptedSessionCachedCipher.stir 1 0) :=
    Run.snoc hconnect rfl
  have hinStep : 1 = 0 := hkeeps.right _ [] _ rfl hwrite
  cases hinStep

end Sender

end Net
end Rzu
