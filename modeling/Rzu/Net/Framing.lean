import Rzu.Library.Consumer
import Rzu.Net.PacketSession

/-!
# The framer behind a packet session

What a session dispatches depends on its buffer only through the buffer's
size.  The framer keeps that much of the session, takes one frame header, one
frame body or one discarded byte at a time, and the receive loop of
`onDataReceived` drains it.
-/

namespace Rzu
namespace Net

open Library

structure Framing (cipher : Type) where
  recvBuffer : List UInt8
  currentMessageSize : Nat
  discardPacket : Bool
  bufferSize : Nat
  inputEnc : cipher
deriving DecidableEq, Repr

namespace Framing

variable {cipher : Type} (T : ByteTransform cipher)

def announcedSize (f : Framing cipher) : Nat :=
  leNat (T.run f.inputEnc (f.recvBuffer.take 4)).1

def startFrame (f : Framing cipher) : Framing cipher :=
  if f.announcedSize T ≤ 4 then
    { f with
      recvBuffer := f.recvBuffer.drop 4
      currentMessageSize := 0
      inputEnc := (T.run f.inputEnc (f.recvBuffer.take 4)).2 }
  else
    { f with
      recvBuffer := f.recvBuffer.drop 4
      currentMessageSize := f.announcedSize T - 4
      discardPacket := decide (f.announcedSize T > maxPacketSize)
      inputEnc := (T.run f.inputEnc (f.recvBuffer.take 4)).2 }

def skipByte (f : Framing cipher) : Framing cipher :=
  { f with
    recvBuffer := f.recvBuffer.tail
    currentMessageSize := f.currentMessageSize - 1 }

def finishFrame (f : Framing cipher) : Framing cipher where
  recvBuffer := f.recvBuffer.drop f.currentMessageSize
  currentMessageSize := 0
  discardPacket := f.discardPacket
  bufferSize := max f.bufferSize (f.currentMessageSize + 4)
  inputEnc :=
    (T.run f.inputEnc (f.recvBuffer.take f.currentMessageSize)).2

def currentFrame (f : Framing cipher) : Frame where
  size := f.currentMessageSize + 4
  body := (T.run f.inputEnc (f.recvBuffer.take f.currentMessageSize)).1

def step (f : Framing cipher) : Option (Framing cipher × List Frame) :=
  if f.currentMessageSize = 0 then
    if f.recvBuffer.length < 4 then none
    else some (f.startFrame T, [])
  else if f.discardPacket = true then
    if f.recvBuffer = [] then none
    else some (f.skipByte, [])
  else if f.recvBuffer.length < f.currentMessageSize then none
  else some (f.finishFrame T, [f.currentFrame T])

def feed (f : Framing cipher) (data : List UInt8) : Framing cipher :=
  { f with recvBuffer := f.recvBuffer ++ data }

theorem step_of_header {f : Framing cipher}
    (hzero : f.currentMessageSize = 0) (havail : 4 ≤ f.recvBuffer.length) :
    f.step T = some (f.startFrame T, []) := by
  rw [step, if_pos hzero, if_neg (by lia)]

theorem step_of_skip {f : Framing cipher}
    (hne : f.currentMessageSize ≠ 0) (hdiscard : f.discardPacket = true)
    (hrecv : f.recvBuffer ≠ []) :
    f.step T = some (f.skipByte, []) := by
  rw [step, if_neg hne, if_pos hdiscard, if_neg hrecv]

theorem step_of_body {f : Framing cipher}
    (hne : f.currentMessageSize ≠ 0) (hkeep : f.discardPacket = false)
    (havail : f.currentMessageSize ≤ f.recvBuffer.length) :
    f.step T = some (f.finishFrame T, [f.currentFrame T]) := by
  rw [step, if_neg hne, if_neg (by rw [hkeep]; decide), if_neg (by lia)]

inductive StepCase (f : Framing cipher) :
    Framing cipher -> List Frame -> Prop where
  | header (hzero : f.currentMessageSize = 0)
      (havail : 4 ≤ f.recvBuffer.length) :
      StepCase f (f.startFrame T) []
  | skip (hne : f.currentMessageSize ≠ 0)
      (hdiscard : f.discardPacket = true) (hrecv : f.recvBuffer ≠ []) :
      StepCase f f.skipByte []
  | body (hne : f.currentMessageSize ≠ 0)
      (hkeep : f.discardPacket = false)
      (havail : f.currentMessageSize ≤ f.recvBuffer.length) :
      StepCase f (f.finishFrame T) [f.currentFrame T]

theorem step_cases {f f' : Framing cipher} {out : List Frame}
    (h : f.step T = some (f', out)) : StepCase T f f' out := by
  unfold step at h
  split at h
  · rename_i hzero
    split at h
    · cases h
    · cases h
      exact StepCase.header hzero (by lia)
  · rename_i hne
    split at h
    · rename_i hdiscard
      split at h
      · cases h
      · rename_i hrecv
        cases h
        exact StepCase.skip hne hdiscard hrecv
    · rename_i hkeep
      split at h
      · cases h
      · cases h
        exact StepCase.body hne (by simpa using hkeep) (by lia)

/-- The three ways in which the framer waits for input. -/
inductive Waiting (f : Framing cipher) : Prop where
  | header (hzero : f.currentMessageSize = 0)
      (hshort : f.recvBuffer.length < 4)
  | skip (hne : f.currentMessageSize ≠ 0)
      (hdiscard : f.discardPacket = true) (hempty : f.recvBuffer = [])
  | body (hne : f.currentMessageSize ≠ 0)
      (hkeep : f.discardPacket = false)
      (hshort : f.recvBuffer.length < f.currentMessageSize)

theorem step_eq_none_iff {f : Framing cipher} :
    f.step T = none ↔ f.Waiting := by
  constructor
  · intro h
    unfold step at h
    split at h
    · rename_i hzero
      split at h
      · rename_i hshort
        exact Waiting.header hzero hshort
      · cases h
    · rename_i hne
      split at h
      · rename_i hdiscard
        split at h
        · rename_i hempty
          exact Waiting.skip hne hdiscard hempty
        · cases h
      · rename_i hkeep
        split at h
        · rename_i hshort
          exact Waiting.body hne (by simpa using hkeep) hshort
        · cases h
  · intro h
    cases h with
    | header hzero hshort =>
        rw [step, if_pos hzero, if_pos hshort]
    | skip hne hdiscard hempty =>
        rw [step, if_neg hne, if_pos hdiscard, if_pos hempty]
    | body hne hkeep hshort =>
        rw [step, if_neg hne, if_neg (by rw [hkeep]; decide),
          if_pos hshort]

theorem startFrame_recvBuffer (f : Framing cipher) :
    (f.startFrame T).recvBuffer = f.recvBuffer.drop 4 := by
  unfold startFrame
  split
  · rfl
  · rfl

theorem step_length_lt {f f' : Framing cipher} {out : List Frame}
    (h : f.step T = some (f', out)) :
    f'.recvBuffer.length < f.recvBuffer.length := by
  cases step_cases T h with
  | header hzero havail =>
      rw [startFrame_recvBuffer, List.length_drop]
      lia
  | skip hne hdiscard hrecv =>
      have hpos := List.length_pos_iff.mpr hrecv
      simp only [skipByte, List.length_tail]
      lia
  | body hne hkeep havail =>
      simp only [finishFrame, List.length_drop]
      lia

theorem feed_length (f : Framing cipher) (data : List UInt8) :
    (f.feed data).recvBuffer.length =
      f.recvBuffer.length + data.length :=
  List.length_append

theorem startFrame_feed {f : Framing cipher} (data : List UInt8)
    (havail : 4 ≤ f.recvBuffer.length) :
    (f.feed data).startFrame T = (f.startFrame T).feed data := by
  have htake : (f.feed data).recvBuffer.take 4 = f.recvBuffer.take 4 :=
    List.take_append_of_le_length havail
  have hdrop : (f.feed data).recvBuffer.drop 4 =
      f.recvBuffer.drop 4 ++ data :=
    List.drop_append_of_le_length havail
  have hsize : (f.feed data).announcedSize T = f.announcedSize T := by
    rw [announcedSize, htake]
    rfl
  rw [startFrame, startFrame, hsize, htake, hdrop]
  by_cases hsmall : f.announcedSize T ≤ 4
  · rw [if_pos hsmall, if_pos hsmall]
    rfl
  · rw [if_neg hsmall, if_neg hsmall]
    rfl

theorem step_feed {f f' : Framing cipher} {out : List Frame}
    (data : List UInt8) (h : f.step T = some (f', out)) :
    (f.feed data).step T = some (f'.feed data, out) := by
  have hlen := feed_length f data
  cases step_cases T h with
  | header hzero havail =>
      rw [step_of_header T (f := f.feed data) hzero (by lia),
        startFrame_feed T data havail]
  | skip hne hdiscard hrecv =>
      have happend : (f.feed data).recvBuffer ≠ [] := by
        intro hnil
        exact hrecv (List.append_eq_nil_iff.mp hnil).left
      rw [step_of_skip T (f := f.feed data) hne hdiscard happend]
      simp only [skipByte, feed, List.tail_append_of_ne_nil hrecv]
  | body hne hkeep havail =>
      have htake : (f.recvBuffer ++ data).take f.currentMessageSize =
          f.recvBuffer.take f.currentMessageSize :=
        List.take_append_of_le_length havail
      have hdrop : (f.recvBuffer ++ data).drop f.currentMessageSize =
          f.recvBuffer.drop f.currentMessageSize ++ data :=
        List.drop_append_of_le_length havail
      have hsize : (f.feed data).currentMessageSize ≤
          (f.feed data).recvBuffer.length :=
        hlen ▸ Nat.le_add_right_of_le havail
      rw [step_of_body T (f := f.feed data) hne hkeep hsize]
      simp only [finishFrame, currentFrame, feed, htake, hdrop]

end Framing

def framer {cipher : Type} (T : ByteTransform cipher) :
    Consumer (Framing cipher) UInt8 Frame where
  step f := f.step T
  feed := Framing.feed
  pending f := f.recvBuffer.length
  feed_nil f := by
    rw [Framing.feed, List.append_nil]
  feed_append f xs ys := by
    rw [Framing.feed, Framing.feed, Framing.feed, List.append_assoc]
  step_pending h := Framing.step_length_lt T h
  step_feed data h := Framing.step_feed T data h

namespace Framing

variable {cipher : Type} (T : ByteTransform cipher)

theorem idle_iff {f : Framing cipher} :
    (framer T).step f = none ↔ f.Waiting :=
  step_eq_none_iff T

theorem drain_discard (f : Framing cipher) (count : Nat)
    (hdiscard : f.discardPacket = true)
    (hcount : count ≤ f.currentMessageSize)
    (hrecv : count ≤ f.recvBuffer.length) :
    (framer T).drain f =
      (framer T).drain
        { f with
          recvBuffer := f.recvBuffer.drop count
          currentMessageSize := f.currentMessageSize - count } := by
  induction count generalizing f with
  | zero => rfl
  | succ count ih =>
      have hne : f.recvBuffer ≠ [] := by
        intro hnil
        rw [hnil] at hrecv
        cases hrecv
      have hstep : (framer T).step f = some (f.skipByte, []) := by
        change f.step T = _
        rw [step, if_neg (by lia), if_pos hdiscard, if_neg hne]
      have hlen : f.recvBuffer.tail.length = f.recvBuffer.length - 1 :=
        List.length_tail
      rw [Consumer.drain_of_some _ hstep, List.nil_append]
      change (framer T).drain f.skipByte = _
      rw [ih f.skipByte hdiscard (by simp only [skipByte]; lia)
        (by simp only [skipByte]; lia)]
      simp only [skipByte, List.drop_tail]
      congr 2
      lia

theorem drain_discard_incomplete {f : Framing cipher}
    (hdiscard : f.discardPacket = true)
    (hshort : f.recvBuffer.length < f.currentMessageSize) :
    ((framer T).drain f).2 = [] := by
  have hdrain := drain_discard T f f.recvBuffer.length hdiscard
    (Nat.le_of_lt hshort) (Nat.le_refl _)
  have hidle : (framer T).step
      { f with
        recvBuffer := f.recvBuffer.drop f.recvBuffer.length
        currentMessageSize :=
          f.currentMessageSize - f.recvBuffer.length } = none := by
    apply (idle_iff T).mpr
    apply Waiting.skip
    · simp only
      lia
    · exact hdiscard
    · exact List.drop_length
  rw [hdrain, Consumer.drain_of_none _ hidle]

end Framing

namespace Receiver

variable {cipher : Type} (T : ByteTransform cipher)
variable (garbage : Nat -> UInt8)

def framing (r : Receiver cipher) : Framing cipher where
  recvBuffer := r.stream.recvBuffer
  currentMessageSize := r.inputBuffer.currentMessageSize
  discardPacket := r.inputBuffer.discardPacket
  bufferSize := r.inputBuffer.bufferSize
  inputEnc := r.inputEnc

theorem read_of_le {r : Receiver cipher} {size : Nat}
    (h : size ≤ r.stream.getAvailableBytes) :
    r.read T size =
      ((T.run r.inputEnc (r.stream.recvBuffer.take size)).1,
        { r with
          stream :=
            { r.stream with recvBuffer := r.stream.recvBuffer.drop size }
          inputEnc :=
            (T.run r.inputEnc (r.stream.recvBuffer.take size)).2 }) := by
  rw [read, Stream.read_of_le h]

theorem framing_readHeader {r : Receiver cipher}
    (h : 4 ≤ r.stream.getAvailableBytes) :
    (r.readHeader T).framing = r.framing.startFrame T := by
  rw [readHeader, read_of_le T h]
  by_cases hsmall :
      leNat (T.run r.inputEnc (r.stream.recvBuffer.take 4)).1 ≤ 4
  · have hannounced : r.framing.announcedSize T ≤ 4 := hsmall
    rw [Framing.startFrame, if_pos hannounced, InputBuffer.startMessage,
      if_pos hsmall]
    rfl
  · have hannounced : ¬ r.framing.announcedSize T ≤ 4 := hsmall
    rw [Framing.startFrame, if_neg hannounced, InputBuffer.startMessage,
      if_neg hsmall]
    rfl

theorem completeMessage_length (inputBuffer : InputBuffer)
    {body : List UInt8}
    (hbody : body.length = inputBuffer.currentMessageSize) :
    (completeMessage garbage inputBuffer body).length =
      max inputBuffer.bufferSize (inputBuffer.currentMessageSize + 4) := by
  unfold completeMessage ensureBuffer
  split
  · simp only [List.length_append, leBytes_length, List.length_drop,
      newBuffer_length, hbody]
    lia
  · simp only [List.length_append, leBytes_length, List.length_drop, hbody]
    unfold InputBuffer.bufferSize at *
    lia

theorem frame_completeMessage (inputBuffer : InputBuffer)
    {body : List UInt8}
    (hbody : body.length = inputBuffer.currentMessageSize)
    (hkeep : inputBuffer.discardPacket = false) :
    (completeMessage garbage inputBuffer body).frame =
      ⟨inputBuffer.currentMessageSize + 4, body⟩ := by
  have hsize : inputBuffer.currentMessageSize + 4 < 256 ^ 4 := by
    have hbound := inputBuffer.bounded hkeep
    unfold maxPacketSize at hbound
    lia
  have htake : (completeMessage garbage inputBuffer body).take 4 =
      leBytes 4 (inputBuffer.currentMessageSize + 4) :=
    List.take_left' (leBytes_length _ _)
  have hdrop : (completeMessage garbage inputBuffer body).drop 4 =
      body ++ (ensureBuffer garbage inputBuffer).drop
        (inputBuffer.currentMessageSize + 4) :=
    List.drop_left' (leBytes_length _ _)
  rw [Message.frame, htake, hdrop, leNat_leBytes_of_lt hsize,
    Nat.add_sub_cancel, List.take_left' hbody]

theorem framing_dispatchBody {r : Receiver cipher}
    (h : r.inputBuffer.currentMessageSize ≤ r.stream.getAvailableBytes)
    (hkeep : r.inputBuffer.discardPacket = false) :
    (r.dispatchBody T garbage).1.framing = r.framing.finishFrame T ∧
      (r.dispatchBody T garbage).2.frame = r.framing.currentFrame T := by
  have hbody : (T.run r.inputEnc (r.stream.recvBuffer.take
      r.inputBuffer.currentMessageSize)).1.length =
      r.inputBuffer.currentMessageSize := by
    rw [ByteTransform.run_length, List.length_take]
    exact Nat.min_eq_left h
  rw [dispatchBody, read_of_le T h]
  constructor
  · simp only [framing, Framing.finishFrame, InputBuffer.finishMessage,
      InputBuffer.bufferSize]
    rw [completeMessage_length garbage r.inputBuffer hbody]
    rfl
  · exact frame_completeMessage garbage r.inputBuffer hbody hkeep

theorem drain_handleBody (r : Receiver cipher) :
    (framer T).drain r.framing =
      (((framer T).drain (r.handleBody T garbage).1.framing).1,
        (r.handleBody T garbage).2.map Message.frame ++
          ((framer T).drain (r.handleBody T garbage).1.framing).2) := by
  unfold handleBody
  split
  · rename_i hskip
    have hsize : r.stream.effectiveSize r.inputBuffer.currentMessageSize =
        min r.inputBuffer.currentMessageSize r.stream.recvBuffer.length :=
      Stream.effectiveSize_eq_min _ _
    rw [List.map_nil, List.nil_append]
    exact Framing.drain_discard T r.framing
      (r.stream.effectiveSize r.inputBuffer.currentMessageSize)
      hskip.right (hsize ▸ Nat.min_le_left _ _)
      (hsize ▸ Nat.min_le_right _ _)
  · rename_i hskip
    split
    · rename_i hbody
      have hkeep : r.inputBuffer.discardPacket = false := by
        cases hflag : r.inputBuffer.discardPacket with
        | false => rfl
        | true => exact absurd ⟨hbody.left, hflag⟩ hskip
      have hstep : (framer T).step r.framing =
          some (r.framing.finishFrame T, [r.framing.currentFrame T]) :=
        Framing.step_of_body T hbody.left hkeep hbody.right
      rcases framing_dispatchBody T garbage hbody.right hkeep with
        ⟨hframing, hframe⟩
      rw [Consumer.drain_of_some _ hstep, hframing, List.map_singleton,
        hframe]
    · rfl

theorem framing_loopBody_none {r : Receiver cipher}
    (h : r.loopBody T garbage = none) :
    (framer T).step r.framing = none := by
  unfold loopBody at h
  split at h
  · rename_i hbreak
    exact (Framing.idle_iff T).mpr
      (Framing.Waiting.header hbreak.left hbreak.right)
  · split at h
    · cases h
    · cases h

theorem drain_loopBody {r r' : Receiver cipher} {out : List Message}
    (h : r.loopBody T garbage = some (r', out)) :
    (framer T).drain r.framing =
      (((framer T).drain r'.framing).1,
        out.map Message.frame ++ ((framer T).drain r'.framing).2) := by
  unfold loopBody at h
  split at h
  · cases h
  rename_i hbreak
  split at h
  · rename_i hzero
    have havail : 4 ≤ r.stream.getAvailableBytes := by
      lia
    have hstep : (framer T).step r.framing =
        some (r.framing.startFrame T, []) :=
      Framing.step_of_header T hzero havail
    have hbody := Option.some.inj h
    rw [Consumer.drain_of_some _ hstep, List.nil_append,
      ← framing_readHeader T havail,
      drain_handleBody T garbage (r.readHeader T), hbody]
  · have hbody := Option.some.inj h
    rw [drain_handleBody T garbage r, hbody]

theorem handleBody_discarding (r : Receiver cipher)
    (hne : (r.handleBody T garbage).1.inputBuffer.currentMessageSize ≠ 0)
    (hdiscard :
      (r.handleBody T garbage).1.inputBuffer.discardPacket = true) :
    (r.handleBody T garbage).1.stream.recvBuffer = [] := by
  unfold handleBody at hne hdiscard ⊢
  split at hne
  · rename_i hskip
    rw [if_pos hskip] at hdiscard ⊢
    rw [discardBody_recvBuffer, List.drop_eq_nil_iff]
    change r.inputBuffer.currentMessageSize -
      r.stream.effectiveSize r.inputBuffer.currentMessageSize ≠ 0 at hne
    rw [Stream.effectiveSize_eq_min] at hne
    lia
  · rename_i hskip
    rw [if_neg hskip] at hdiscard ⊢
    split at hne
    · exact absurd rfl hne
    · rename_i hbody
      rw [if_neg hbody] at hdiscard
      exact absurd ⟨hne, hdiscard⟩ hskip

theorem loopBody_discarding {r r' : Receiver cipher} {out : List Message}
    (h : r.loopBody T garbage = some (r', out))
    (hne : r'.inputBuffer.currentMessageSize ≠ 0)
    (hdiscard : r'.inputBuffer.discardPacket = true) :
    r'.stream.recvBuffer = [] := by
  unfold loopBody at h
  split at h
  · cases h
  split at h
  · have hbody := Option.some.inj h
    have hcase := handleBody_discarding T garbage (r.readHeader T)
    rw [hbody] at hcase
    exact hcase hne hdiscard
  · have hbody := Option.some.inj h
    have hcase := handleBody_discarding T garbage r
    rw [hbody] at hcase
    exact hcase hne hdiscard

theorem framing_loopAgain_false {r r' : Receiver cipher}
    {out : List Message}
    (h : r.loopBody T garbage = some (r', out))
    (hagain : ¬ r'.loopAgain = true) :
    (framer T).step r'.framing = none := by
  have hcond := of_decide_eq_false (Bool.eq_false_iff.mpr hagain)
  unfold Stream.getAvailableBytes at hcond
  apply (Framing.idle_iff T).mpr
  by_cases hzero : r'.inputBuffer.currentMessageSize = 0
  · apply Framing.Waiting.header hzero
    change r'.stream.recvBuffer.length < 4
    lia
  · cases hflag : r'.inputBuffer.discardPacket with
    | true =>
        exact Framing.Waiting.skip hzero hflag
          (loopBody_discarding T garbage h hzero hflag)
    | false =>
        apply Framing.Waiting.body hzero hflag
        change r'.stream.recvBuffer.length <
          r'.inputBuffer.currentMessageSize
        lia

theorem onDataReceived_of_none {r : Receiver cipher}
    (h : r.loopBody T garbage = none) :
    r.onDataReceived T garbage = (r, []) := by
  rw [onDataReceived]
  split
  · rfl
  · rename_i heq
    rw [h] at heq
    cases heq

theorem onDataReceived_of_some {r r' : Receiver cipher}
    {out : List Message} (h : r.loopBody T garbage = some (r', out)) :
    r.onDataReceived T garbage =
      if r'.loopAgain = true then
        ((r'.onDataReceived T garbage).1,
          out ++ (r'.onDataReceived T garbage).2)
      else
        (r', out) := by
  rw [onDataReceived]
  split
  · rename_i heq
    rw [h] at heq
    cases heq
  · rename_i heq
    rw [h] at heq
    cases heq
    rfl

theorem onDataReceived_refines (r : Receiver cipher) :
    ((r.onDataReceived T garbage).1.framing,
      (r.onDataReceived T garbage).2.map Message.frame) =
        (framer T).drain r.framing := by
  induction r using onDataReceived.induct T garbage with
  | case1 r hbody =>
      rw [onDataReceived_of_none T garbage hbody,
        Consumer.drain_of_none _ (framing_loopBody_none T garbage hbody)]
      rfl
  | case2 r r' out hbody hagain ih =>
      rw [onDataReceived_of_some T garbage hbody, if_pos hagain,
        drain_loopBody T garbage hbody, ← ih, List.map_append]
  | case3 r r' out hbody hagain =>
      have hidle := framing_loopAgain_false T garbage hbody hagain
      rw [onDataReceived_of_some T garbage hbody, if_neg hagain,
        drain_loopBody T garbage hbody, Consumer.drain_of_none _ hidle,
        List.append_nil]

theorem dataReceived_refines {r : Receiver cipher}
    (hidle : (framer T).step r.framing = none) (data : List UInt8) :
    ((r.dataReceived T garbage data).1.framing,
      (r.dataReceived T garbage data).2.map Message.frame) =
        (framer T).drain ((framer T).feed r.framing data) := by
  unfold dataReceived
  split
  · rename_i hempty
    rw [hempty, Consumer.feed_nil, Consumer.drain_of_none _ hidle]
    rfl
  · rw [onDataReceived_refines]
    rfl

theorem receiveAll_refines {r : Receiver cipher}
    (hidle : (framer T).step r.framing = none)
    (chunks : List (List UInt8)) :
    ((r.receiveAll T garbage chunks).1.framing,
      r.dispatched T garbage chunks) =
        (framer T).receiveAll r.framing chunks := by
  induction chunks generalizing r with
  | nil => rfl
  | cons chunk rest ih =>
      have hfirst := dataReceived_refines T garbage hidle chunk
      have hframing : (r.dataReceived T garbage chunk).1.framing =
          ((framer T).drain ((framer T).feed r.framing chunk)).1 :=
        congrArg Prod.fst hfirst
      have hidle' : (framer T).step
          (r.dataReceived T garbage chunk).1.framing = none := by
        rw [hframing]
        exact (framer T).step_drain _
      have hrest := ih hidle'
      rw [Consumer.receiveAll_cons, ← hfirst, ← hrest]
      simp only [dispatched, receiveAll, List.map_append]

theorem receiveAll_eq_drain {r : Receiver cipher}
    (hidle : (framer T).step r.framing = none)
    (chunks : List (List UInt8)) :
    ((r.receiveAll T garbage chunks).1.framing,
      r.dispatched T garbage chunks) =
        (framer T).drain (r.framing.feed chunks.flatten) := by
  rw [receiveAll_refines T garbage hidle,
    Consumer.receiveAll_eq_drain _ hidle]
  rfl

end Receiver

end Net
end Rzu
