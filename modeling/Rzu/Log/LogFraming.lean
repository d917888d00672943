import Rzu.Log.LogPacketSession

/-!
# Framing of log messages

The receive loop drains a framer that takes one header or one body at a time.
As long as no header announces 4 bytes or less, what it dispatches are the
frames of the stream, whatever chunks the stream arrives in.
-/

namespace Rzu
namespace Log

open Library Net

/-!
## The framer
-/

/-- What a session dispatches depends on this part of it. -/
structure Framing where
  recvBuffer : List UInt8
  currentMessage : MiniHeader
deriving DecidableEq, Repr

namespace Framing

variable {f f' : Framing} {out : List Frame}

def header (f : Framing) : MiniHeader := MiniHeader.ofBytes f.recvBuffer

def startFrame (f : Framing) : Framing where
  recvBuffer := f.recvBuffer.drop 4
  currentMessage :=
    { id := f.header.id
      size := InputBuffer.expectedSize f.header.size - 4 }

def finishFrame (f : Framing) : Framing where
  recvBuffer := f.recvBuffer.drop f.currentMessage.size.toNat
  currentMessage := { id := f.currentMessage.id, size := 0 }

def currentFrame (f : Framing) : Frame where
  id := f.currentMessage.id
  size := f.currentMessage.size + 4
  body :=
    (f.recvBuffer.take f.currentMessage.size.toNat).take
      ((f.currentMessage.size + 4).toNat - 4)

def step (f : Framing) : Option (Framing × List Frame) :=
  if f.currentMessage.size = 0 then
    if f.recvBuffer.length < 4 then none
    else some (f.startFrame, [])
  else if f.recvBuffer.length < f.currentMessage.size.toNat then none
  else some (f.finishFrame, [f.currentFrame])

def feed (f : Framing) (data : List UInt8) : Framing :=
  { f with recvBuffer := f.recvBuffer ++ data }

theorem size_pos (h : f.currentMessage.size ≠ 0) :
    0 < f.currentMessage.size.toNat := by
  apply Nat.pos_of_ne_zero
  intro hzero
  exact h (UInt16.toNat_inj.mp hzero)

theorem step_of_header (hzero : f.currentMessage.size = 0)
    (havail : 4 ≤ f.recvBuffer.length) :
    f.step = some (f.startFrame, []) := by
  rw [step, if_pos hzero, if_neg (Nat.not_lt_of_le havail)]

theorem step_of_body (hne : f.currentMessage.size ≠ 0)
    (havail : f.currentMessage.size.toNat ≤ f.recvBuffer.length) :
    f.step = some (f.finishFrame, [f.currentFrame]) := by
  rw [step, if_neg hne, if_neg (Nat.not_lt_of_le havail)]

inductive StepCase (f : Framing) : Framing -> List Frame -> Prop where
  | header (hzero : f.currentMessage.size = 0)
      (havail : 4 ≤ f.recvBuffer.length) : StepCase f f.startFrame []
  | body (hne : f.currentMessage.size ≠ 0)
      (havail : f.currentMessage.size.toNat ≤ f.recvBuffer.length) :
      StepCase f f.finishFrame [f.currentFrame]

theorem step_cases (h : f.step = some (f', out)) : StepCase f f' out := by
  unfold step at h
  split at h
  · rename_i hzero
    split at h
    · cases h
    · rename_i havail
      cases h
      exact StepCase.header hzero (Nat.le_of_not_lt havail)
  · rename_i hne
    split at h
    · cases h
    · rename_i havail
      cases h
      exact StepCase.body hne (Nat.le_of_not_lt havail)

theorem step_eq_none_iff :
    f.step = none ↔
      (f.currentMessage.size = 0 ∧ f.recvBuffer.length < 4) ∨
      (f.currentMessage.size ≠ 0 ∧
        f.recvBuffer.length < f.currentMessage.size.toNat) := by
  unfold step
  by_cases hzero : f.currentMessage.size = 0
  · rw [if_pos hzero]
    by_cases hshort : f.recvBuffer.length < 4
    · rw [if_pos hshort]
      exact ⟨fun _ => Or.inl ⟨hzero, hshort⟩, fun _ => rfl⟩
    · rw [if_neg hshort]
      constructor
      · intro h
        cases h
      · intro h
        rcases h with h | h
        · exact absurd h.right hshort
        · exact absurd hzero h.left
  · rw [if_neg hzero]
    by_cases hshort :
        f.recvBuffer.length < f.currentMessage.size.toNat
    · rw [if_pos hshort]
      exact ⟨fun _ => Or.inr ⟨hzero, hshort⟩, fun _ => rfl⟩
    · rw [if_neg hshort]
      constructor
      · intro h
        cases h
      · intro h
        rcases h with h | h
        · exact absurd h.left hzero
        · exact absurd h.right hshort

theorem step_length_lt (h : f.step = some (f', out)) :
    f'.recvBuffer.length < f.recvBuffer.length := by
  cases step_cases h with
  | header hzero havail =>
      rw [startFrame, List.length_drop]
      lia
  | body hne havail =>
      have hpos := size_pos hne
      rw [finishFrame, List.length_drop]
      lia

theorem header_feed (data : List UInt8) (h : 4 ≤ f.recvBuffer.length) :
    (f.feed data).header = f.header := by
  have htake : forall n, n ≤ 4 ->
      (f.recvBuffer ++ data).take n = f.recvBuffer.take n := by
    intro n hn
    exact List.take_append_of_le_length (Nat.le_trans hn h)
  have hdrop : ((f.recvBuffer ++ data).drop 2).take 2 =
      (f.recvBuffer.drop 2).take 2 := by
    rw [List.drop_append_of_le_length (by lia),
      List.take_append_of_le_length]
    rw [List.length_drop]
    lia
  simp only [header, feed, MiniHeader.ofBytes, htake 2 (by lia), hdrop]

theorem step_feed (data : List UInt8) (h : f.step = some (f', out)) :
    (f.feed data).step = some (f'.feed data, out) := by
  have hlength : f.recvBuffer.length ≤ (f.feed data).recvBuffer.length := by
    rw [feed, List.length_append]
    lia
  cases step_cases h with
  | header hzero havail =>
      rw [step_of_header (f := f.feed data) hzero
        (Nat.le_trans havail hlength)]
      have hdrop : (f.recvBuffer ++ data).drop 4 =
          f.recvBuffer.drop 4 ++ data :=
        List.drop_append_of_le_length havail
      simp only [startFrame, header_feed data havail]
      simp only [feed, hdrop]
  | body hne havail =>
      rw [step_of_body (f := f.feed data) hne
        (Nat.le_trans havail hlength)]
      have hdrop : (f.recvBuffer ++ data).drop f.currentMessage.size.toNat =
          f.recvBuffer.drop f.currentMessage.size.toNat ++ data :=
        List.drop_append_of_le_length havail
      have htake : (f.recvBuffer ++ data).take f.currentMessage.size.toNat =
          f.recvBuffer.take f.currentMessage.size.toNat :=
        List.take_append_of_le_length havail
      simp only [finishFrame, currentFrame, feed, hdrop, htake]

end Framing

def framer : Consumer Framing UInt8 Frame where
  step := Framing.step
  feed := Framing.feed
  pending f := f.recvBuffer.length
  feed_nil f := by
    rw [Framing.feed, List.append_nil]
  feed_append f xs ys := by
    rw [Framing.feed, Framing.feed, Framing.feed, List.append_assoc]
  step_pending h := Framing.step_length_lt h
  step_feed data h := Framing.step_feed data h

theorem Framing.idle_iff {f : Framing} :
    framer.step f = none ↔
      (f.currentMessage.size = 0 ∧ f.recvBuffer.length < 4) ∨
      (f.currentMessage.size ≠ 0 ∧
        f.recvBuffer.length < f.currentMessage.size.toNat) :=
  step_eq_none_iff

/-!
## The session drains the framer
-/

theorem ofBytes_headerBytes (header : MiniHeader) (rest : List UInt8) :
    MiniHeader.ofBytes
      (leBytes 2 header.id.toNat ++ (leBytes 2 header.size.toNat ++ rest)) =
      header := by
  have hid : leNat (leBytes 2 header.id.toNat) = header.id.toNat :=
    leNat_leBytes_of_lt header.id.toNat_lt
  have hsize : leNat (leBytes 2 header.size.toNat) = header.size.toNat :=
    leNat_leBytes_of_lt header.size.toNat_lt
  rw [MiniHeader.ofBytes, List.take_left' (leBytes_length 2 _),
    List.drop_left' (leBytes_length 2 _),
    List.take_left' (leBytes_length 2 _), hid, hsize, UInt16.ofNat_toNat,
    UInt16.ofNat_toNat]

namespace Receiver

variable (garbage : Nat -> UInt8)

def framing (r : Receiver) : Framing where
  recvBuffer := r.stream.recvBuffer
  currentMessage := r.inputBuffer.currentMessage

theorem ofBytes_take (bytes : List UInt8) :
    MiniHeader.ofBytes (bytes.take 4) = MiniHeader.ofBytes bytes := by
  rw [MiniHeader.ofBytes, MiniHeader.ofBytes, List.take_take,
    List.drop_take, List.take_take]
  rfl

theorem framing_readHeader {r : Receiver}
    (h : 4 ≤ r.stream.getAvailableBytes) :
    r.readHeader.framing = r.framing.startFrame := by
  have hheader : MiniHeader.ofBytes (r.stream.read 4).1 =
      r.framing.header := by
    rw [Stream.read_of_le h]
    exact ofBytes_take _
  change ({ recvBuffer := r.readHeader.stream.recvBuffer
            currentMessage :=
              (r.inputBuffer.startMessage
                (MiniHeader.ofBytes (r.stream.read 4).1)).currentMessage } :
    Framing) = _
  rw [readHeader_recvBuffer h, hheader]
  rfl

theorem frame_completeMessage {r : Receiver}
    (h : r.currentMessageSize ≤ r.stream.getAvailableBytes) :
    (r.completeMessage garbage).frame = r.framing.currentFrame := by
  have hbody : (r.stream.read r.currentMessageSize).1 =
      r.stream.recvBuffer.take r.currentMessageSize := by
    rw [Stream.read_of_le h]
  have hlength : ((r.stream.recvBuffer.take r.currentMessageSize)).length =
      r.currentMessageSize := by
    rw [List.length_take]
    exact Nat.min_eq_left h
  have hheader := ofBytes_headerBytes
    { id := r.inputBuffer.currentMessage.id
      size := r.inputBuffer.currentMessage.size + 4 }
    ((r.stream.read r.currentMessageSize).1 ++
      (r.ensureBuffer garbage).drop (r.currentMessageSize + 4))
  have hcovered : (r.inputBuffer.currentMessage.size + 4).toNat - 4 ≤
      (r.stream.recvBuffer.take r.currentMessageSize).length := by
    have hle := Nat.mod_le
      (r.inputBuffer.currentMessage.size.toNat + 4) (2 ^ 16)
    rw [hlength, UInt16.toNat_add]
    change _ - 4 ≤ r.inputBuffer.currentMessage.size.toNat
    lia
  rw [Message.frame]
  change MiniHeader.ofBytes (r.completeMessage garbage) = _ at hheader
  rw [hheader, completeMessage, ← List.append_assoc,
    List.drop_left' (by simp), hbody]
  simp only [Framing.currentFrame, framing]
  congr 1
  exact List.take_append_of_le_length hcovered

theorem drain_handleBody (r : Receiver) :
    framer.drain r.framing =
      ((framer.drain (r.handleBody garbage).1.framing).1,
        (r.handleBody garbage).2.map Message.frame ++
          (framer.drain (r.handleBody garbage).1.framing).2) := by
  rw [handleBody_eq]
  split
  · rename_i hbody
    have hstep : framer.step r.framing =
        some (r.framing.finishFrame, [r.framing.currentFrame]) :=
      Framing.step_of_body hbody.left hbody.right
    have hframing : (r.dispatchBody garbage).framing =
        r.framing.finishFrame := by
      rw [framing, dispatchBody_recvBuffer garbage hbody.right]
      rfl
    rw [framer.drain_of_some hstep, hframing, List.map_singleton,
      frame_completeMessage garbage hbody.right]
  · rfl

theorem receiveLoop_drains :
    DoWhile.Drains (receiveLoop garbage) framer framing Message.frame where
  leaves := by
    intro r h
    change r.loopBody garbage = none at h
    unfold loopBody at h
    split at h
    · rename_i hbreak
      exact Framing.idle_iff.mpr (Or.inl hbreak)
    · split at h
      · cases h
      · cases h
  passes := by
    intro r r' out h
    change r.loopBody garbage = some (r', out) at h
    unfold loopBody at h
    split at h
    · cases h
    rename_i hbreak
    split at h
    · rename_i hzero
      have havail : 4 ≤ r.stream.getAvailableBytes := by
        apply Nat.le_of_not_lt
        intro hshort
        exact hbreak ⟨hzero, hshort⟩
      have hstep : framer.step r.framing =
          some (r.framing.startFrame, []) :=
        Framing.step_of_header hzero havail
      have hbody := Option.some.inj h
      rw [framer.drain_of_some hstep, List.nil_append,
        ← framing_readHeader havail, drain_handleBody garbage r.readHeader,
        hbody]
    · have hbody := Option.some.inj h
      rw [drain_handleBody garbage r, hbody]
  ends := by
    intro r r' out h hagain
    have hcond : ¬((r'.inputBuffer.currentMessage.size = 0 ∧
          r'.stream.getAvailableBytes ≥ 4) ∨
        (r'.inputBuffer.currentMessage.size ≠ 0 ∧
          r'.stream.getAvailableBytes ≥ r'.currentMessageSize)) := by
      intro hcond
      exact hagain (decide_eq_true hcond)
    apply Framing.idle_iff.mpr
    by_cases hzero : r'.inputBuffer.currentMessage.size = 0
    · apply Or.inl
      refine ⟨hzero, Nat.lt_of_not_le ?_⟩
      intro havail
      exact hcond (Or.inl ⟨hzero, havail⟩)
    · apply Or.inr
      refine ⟨hzero, Nat.lt_of_not_le ?_⟩
      intro havail
      exact hcond (Or.inr ⟨hzero, havail⟩)

theorem dataReceived_drains (r : Receiver) (data : List UInt8)
    (hidle : framer.step r.framing = none) :
    ((r.dataReceived garbage data).1.framing,
      (r.dataReceived garbage data).2.map Message.frame) =
        framer.drain (framer.feed r.framing data) := by
  unfold dataReceived
  split
  · rename_i hempty
    rw [hempty, framer.feed_nil, framer.drain_of_none hidle]
    rfl
  · exact (receiveLoop_drains garbage).run _

theorem receiveAll_drains (streamType : StreamType)
    (chunks : List (List UInt8)) :
    (((start garbage streamType).receiveAll garbage chunks).1.framing,
      ((start garbage streamType).receiveAll garbage chunks).2.map
        Message.frame) =
      framer.drain
        { recvBuffer := chunks.flatten
          currentMessage := { id := 0, size := 0 } } := by
  have hidle : framer.step (start garbage streamType).framing = none := by
    apply Framing.idle_iff.mpr
    exact Or.inl ⟨rfl, Nat.zero_lt_succ 3⟩
  exact DoWhile.receiveAll_eq_drain (C := framer)
    (dataReceived_drains garbage) hidle chunks

end Receiver

/-!
## The frames of a stream
-/

/-- The frame that a complete header and body at the front make up. -/
def headFrame (bytes : List UInt8) : Frame where
  id := (MiniHeader.ofBytes bytes).id
  size := (MiniHeader.ofBytes bytes).size
  body := (bytes.drop 4).take ((MiniHeader.ofBytes bytes).size.toNat - 4)

/-- The frames of a stream, and what follows the last complete one. -/
structure Reading where
  frames : List Frame
  /-- How long the body is whose header was read, 0 for no header. -/
  awaited : Nat
  unread : List UInt8
deriving DecidableEq, Repr

/--
What there is to read in a stream.  A header that announces 4 bytes or less
stands for itself.
-/
def exactReading (bytes : List UInt8) : Reading :=
  let size := (MiniHeader.ofBytes bytes).size
  if _hshort : bytes.length < 4 then
    { frames := [], awaited := 0, unread := bytes }
  else if _hsmall : size ≤ 4 then
    exactReading (bytes.drop 4)
  else if bytes.length < size.toNat then
    { frames := [], awaited := size.toNat - 4, unread := bytes.drop 4 }
  else
    let rest := exactReading (bytes.drop size.toNat)
    { rest with frames := headFrame bytes :: rest.frames }
termination_by bytes.length
decreasing_by
  · rw [List.length_drop]
    lia
  · have hlarge : ¬(MiniHeader.ofBytes bytes).size.toNat ≤ 4 :=
      fun hle => _hsmall (UInt16.le_iff_toNat_le.mpr hle)
    rw [List.length_drop]
    lia

/-- A frame of the stream begins with a size of 4 or less. -/
inductive AnnouncesTooLittle : List UInt8 -> Prop where
  | here {bytes : List UInt8} (havail : 4 ≤ bytes.length)
      (hsmall : (MiniHeader.ofBytes bytes).size ≤ 4) :
      AnnouncesTooLittle bytes
  | later {bytes : List UInt8}
      (hlarge : 4 < (MiniHeader.ofBytes bytes).size)
      (hcomplete : (MiniHeader.ofBytes bytes).size.toNat ≤ bytes.length)
      (hrest : AnnouncesTooLittle
        (bytes.drop (MiniHeader.ofBytes bytes).size.toNat)) :
      AnnouncesTooLittle bytes

section Reading

variable {bytes : List UInt8}

theorem exactReading_short (h : bytes.length < 4) :
    exactReading bytes = { frames := [], awaited := 0, unread := bytes } := by
  rw [exactReading]
  simp only [dif_pos h]

theorem exactReading_small (h : 4 ≤ bytes.length)
    (hsmall : (MiniHeader.ofBytes bytes).size ≤ 4) :
    exactReading bytes = exactReading (bytes.drop 4) := by
  rw [exactReading]
  simp only [dif_neg (Nat.not_lt_of_le h), dif_pos hsmall]

theorem not_small (hlarge : 4 < (MiniHeader.ofBytes bytes).size) :
    ¬(MiniHeader.ofBytes bytes).size ≤ 4 := by
  intro hsmall
  have hlt := UInt16.lt_iff_toNat_lt.mp hlarge
  have hle := UInt16.le_iff_toNat_le.mp hsmall
  lia

theorem exactReading_incomplete (h : 4 ≤ bytes.length)
    (hlarge : 4 < (MiniHeader.ofBytes bytes).size)
    (hshort : bytes.length < (MiniHeader.ofBytes bytes).size.toNat) :
    exactReading bytes =
      { frames := []
        awaited := (MiniHeader.ofBytes bytes).size.toNat - 4
        unread := bytes.drop 4 } := by
  rw [exactReading]
  simp only [dif_neg (Nat.not_lt_of_le h), dif_neg (not_small hlarge),
    if_pos hshort]

theorem exactReading_complete
    (hlarge : 4 < (MiniHeader.ofBytes bytes).size)
    (hcomplete : (MiniHeader.ofBytes bytes).size.toNat ≤ bytes.length) :
    exactReading bytes =
      { exactReading
          (bytes.drop (MiniHeader.ofBytes bytes).size.toNat) with
        frames := headFrame bytes ::
          (exactReading
            (bytes.drop (MiniHeader.ofBytes bytes).size.toNat)).frames } := by
  have hlt := UInt16.lt_iff_toNat_lt.mp hlarge
  change 4 < (MiniHeader.ofBytes bytes).size.toNat at hlt
  rw [exactReading]
  simp only [dif_neg (show ¬bytes.length < 4 by lia),
    dif_neg (not_small hlarge), if_neg (Nat.not_lt_of_le hcomplete)]

theorem reading_induction {motive : List UInt8 -> Prop}
    (short : forall bytes, bytes.length < 4 -> motive bytes)
    (small : forall bytes, 4 ≤ bytes.length ->
      (MiniHeader.ofBytes bytes).size ≤ 4 -> motive (bytes.drop 4) ->
        motive bytes)
    (incomplete : forall bytes, 4 ≤ bytes.length ->
      4 < (MiniHeader.ofBytes bytes).size ->
      bytes.length < (MiniHeader.ofBytes bytes).size.toNat -> motive bytes)
    (complete : forall bytes, 4 < (MiniHeader.ofBytes bytes).size ->
      (MiniHeader.ofBytes bytes).size.toNat ≤ bytes.length ->
      motive (bytes.drop (MiniHeader.ofBytes bytes).size.toNat) ->
        motive bytes)
    (bytes : List UInt8) : motive bytes := by
  induction hn : bytes.length using Nat.strongRecOn generalizing bytes with
  | ind n ih =>
      by_cases hshort : bytes.length < 4
      · exact short bytes hshort
      · have havail : 4 ≤ bytes.length := Nat.le_of_not_lt hshort
        by_cases hsmall : (MiniHeader.ofBytes bytes).size ≤ 4
        · apply small bytes havail hsmall
          apply ih (bytes.drop 4).length _ _ rfl
          rw [List.length_drop]
          lia
        · have hlarge : 4 < (MiniHeader.ofBytes bytes).size :=
            UInt16.not_le.mp hsmall
          have hlt : 4 < (MiniHeader.ofBytes bytes).size.toNat :=
            UInt16.lt_iff_toNat_lt.mp hlarge
          by_cases hcomplete :
              (MiniHeader.ofBytes bytes).size.toNat ≤ bytes.length
          · apply complete bytes hlarge hcomplete
            apply ih _ _ _ rfl
            rw [List.length_drop]
            lia
          · exact incomplete bytes havail hlarge
              (Nat.lt_of_not_le hcomplete)

theorem exactReading_large (bytes : List UInt8) :
    forall frame, frame ∈ (exactReading bytes).frames -> 4 < frame.size := by
  induction bytes using reading_induction with
  | short bytes hshort =>
      rw [exactReading_short hshort]
      intro frame hmem
      exact absurd hmem List.not_mem_nil
  | small bytes havail hsmall ih =>
      rw [exactReading_small havail hsmall]
      exact ih
  | incomplete bytes havail hlarge hshort =>
      rw [exactReading_incomplete havail hlarge hshort]
      intro frame hmem
      exact absurd hmem List.not_mem_nil
  | complete bytes hlarge hcomplete ih =>
      rw [exactReading_complete hlarge hcomplete]
      intro frame hmem
      rcases List.mem_cons.mp hmem with heq | hrest
      · rw [heq]
        exact hlarge
      · exact ih frame hrest

theorem exactReading_awaited (bytes : List UInt8) :
    (exactReading bytes).awaited < 65532 := by
  induction bytes using reading_induction with
  | short bytes hshort =>
      rw [exactReading_short hshort]
      exact Nat.zero_lt_succ 65531
  | small bytes havail hsmall ih =>
      rw [exactReading_small havail hsmall]
      exact ih
  | incomplete bytes havail hlarge hshort =>
      have hlt := (MiniHeader.ofBytes bytes).size.toNat_lt
      rw [exactReading_incomplete havail hlarge hshort]
      change _ - 4 < 65532
      lia
  | complete bytes hlarge hcomplete ih =>
      rw [exactReading_complete hlarge hcomplete]
      exact ih

end Reading

/-!
## What the framer reads
-/

namespace Framing

variable {f : Framing}

/-- What draining the framer yields, and where it stops. -/
def reading (f : Framing) : Reading where
  frames := (framer.drain f).2
  awaited := (framer.drain f).1.currentMessage.size.toNat
  unread := (framer.drain f).1.recvBuffer

theorem reading_of_none (h : framer.step f = none) :
    f.reading =
      { frames := []
        awaited := f.currentMessage.size.toNat
        unread := f.recvBuffer } := by
  rw [reading, framer.drain_of_none h]

theorem reading_of_some {f' : Framing} {out : List Frame}
    (h : framer.step f = some (f', out)) :
    f.reading =
      { f'.reading with frames := out ++ f'.reading.frames } := by
  rw [reading, framer.drain_of_some h]
  rfl

theorem reading_short (hzero : f.currentMessage.size = 0)
    (hshort : f.recvBuffer.length < 4) :
    f.reading = exactReading f.recvBuffer := by
  have hidle : framer.step f = none :=
    idle_iff.mpr (Or.inl ⟨hzero, hshort⟩)
  rw [reading_of_none hidle, exactReading_short hshort, hzero]
  rfl

theorem reading_startFrame (hzero : f.currentMessage.size = 0)
    (havail : 4 ≤ f.recvBuffer.length) : f.reading = f.startFrame.reading :=
  reading_of_some (step_of_header hzero havail)

theorem startFrame_large (hlarge : 4 < f.header.size) :
    f.startFrame =
      { recvBuffer := f.recvBuffer.drop 4
        currentMessage :=
          { id := f.header.id, size := f.header.size - 4 } } := by
  have hnot : ¬f.header.size ≤ 4 := UInt16.not_le.mpr hlarge
  rw [startFrame, InputBuffer.expectedSize, if_neg hnot]

theorem startFrame_small (hsmall : f.header.size ≤ 4) :
    f.startFrame =
      { recvBuffer := f.recvBuffer.drop 4
        currentMessage := { id := f.header.id, size := 65532 } } := by
  rw [startFrame, InputBuffer.expectedSize, if_pos hsmall]
  rfl

theorem bodySize_toNat (hlarge : 4 < f.header.size) :
    (f.header.size - 4).toNat = f.header.size.toNat - 4 := by
  have hlt := UInt16.lt_iff_toNat_lt.mp hlarge
  exact UInt16.toNat_sub_of_le _ _
    (UInt16.le_iff_toNat_le.mpr (Nat.le_of_lt hlt))

theorem bodySize_ne_zero (hlarge : 4 < f.header.size) :
    f.header.size - 4 ≠ 0 := by
  intro hzero
  have hlt : 4 < f.header.size.toNat := UInt16.lt_iff_toNat_lt.mp hlarge
  have hbody := bodySize_toNat hlarge
  rw [hzero] at hbody
  change 0 = _ at hbody
  lia

theorem reading_incomplete (hzero : f.currentMessage.size = 0)
    (havail : 4 ≤ f.recvBuffer.length) (hlarge : 4 < f.header.size)
    (hshort : f.recvBuffer.length < f.header.size.toNat) :
    f.reading = exactReading f.recvBuffer := by
  have hbody := bodySize_toNat hlarge
  have hidle : framer.step f.startFrame = none := by
    rw [startFrame_large hlarge]
    apply idle_iff.mpr
    refine Or.inr ⟨bodySize_ne_zero hlarge, ?_⟩
    change (f.recvBuffer.drop 4).length < (f.header.size - 4).toNat
    rw [hbody, List.length_drop]
    lia
  rw [reading_startFrame hzero havail, reading_of_none hidle,
    startFrame_large hlarge, exactReading_incomplete havail hlarge hshort]
  change Reading.mk [] (f.header.size - 4).toNat (f.recvBuffer.drop 4) = _
  rw [hbody]
  rfl

def afterFrame (f : Framing) : Framing where
  recvBuffer := f.recvBuffer.drop f.header.size.toNat
  currentMessage := { id := f.header.id, size := 0 }

theorem reading_complete (hzero : f.currentMessage.size = 0)
    (hlarge : 4 < f.header.size)
    (hcomplete : f.header.size.toNat ≤ f.recvBuffer.length) :
    f.reading =
      { f.afterFrame.reading with
        frames := headFrame f.recvBuffer :: f.afterFrame.reading.frames } := by
  have hlt : 4 < f.header.size.toNat := UInt16.lt_iff_toNat_lt.mp hlarge
  have hbody := bodySize_toNat hlarge
  have hstep : framer.step f.startFrame =
      some (f.startFrame.finishFrame, [f.startFrame.currentFrame]) := by
    apply step_of_body
    · rw [startFrame_large hlarge]
      exact bodySize_ne_zero hlarge
    · rw [startFrame_large hlarge]
      change (f.header.size - 4).toNat ≤ (f.recvBuffer.drop 4).length
      rw [hbody, List.length_drop]
      lia
  have hfinish : f.startFrame.finishFrame = f.afterFrame := by
    rw [startFrame_large hlarge, finishFrame, afterFrame]
    simp only [hbody, List.drop_drop]
    congr 2
    lia
  have hframe : f.startFrame.currentFrame = headFrame f.recvBuffer := by
    rw [startFrame_large hlarge, currentFrame, headFrame]
    simp only [hbody, UInt16.sub_add_cancel, List.take_take, Nat.min_self]
    rfl
  rw [reading_startFrame hzero (by lia), reading_of_some hstep, hfinish,
    hframe, List.singleton_append]

theorem reading_exact (hzero : f.currentMessage.size = 0)
    (hnone : ¬AnnouncesTooLittle f.recvBuffer) :
    f.reading = exactReading f.recvBuffer := by
  generalize hbytes : f.recvBuffer = bytes at hnone
  induction bytes using reading_induction generalizing f with
  | short bytes hshort =>
      subst hbytes
      exact reading_short hzero hshort
  | small bytes havail hsmall ih =>
      exact absurd (AnnouncesTooLittle.here havail hsmall) hnone
  | incomplete bytes havail hlarge hshort =>
      subst hbytes
      exact reading_incomplete hzero havail hlarge hshort
  | complete bytes hlarge hcomplete ih =>
      subst hbytes
      have hrest := ih (f := f.afterFrame) rfl rfl fun hlater =>
        hnone (AnnouncesTooLittle.later hlarge hcomplete hlater)
      rw [reading_complete hzero hlarge hcomplete,
        exactReading_complete hlarge hcomplete, hrest]

theorem reading_small (hzero : f.currentMessage.size = 0)
    (havail : 4 ≤ f.recvBuffer.length) (hsmall : f.header.size ≤ 4) :
    f.reading.awaited = 65532 ∧ f.reading.frames = [] ∨
      exists frame rest, f.reading.frames = frame :: rest ∧
        frame.size = 0 := by
  have hne : (65532 : UInt16) ≠ 0 := by decide
  rw [reading_startFrame hzero havail, startFrame_small hsmall]
  by_cases hshort : (f.recvBuffer.drop 4).length < 65532
  · apply Or.inl
    rw [reading_of_none (idle_iff.mpr (Or.inr ⟨hne, hshort⟩))]
    exact ⟨rfl, rfl⟩
  · apply Or.inr
    have hwraps : (65532 : UInt16) + 4 = 0 := by decide
    rw [reading_of_some (step_of_body hne (Nat.le_of_not_lt hshort))]
    exact ⟨_, _, rfl, hwraps⟩

theorem reading_not_exact (hzero : f.currentMessage.size = 0)
    (htoo : AnnouncesTooLittle f.recvBuffer) :
    f.reading ≠ exactReading f.recvBuffer := by
  generalize hbytes : f.recvBuffer = bytes at htoo
  induction htoo generalizing f with
  | @here bytes havail hsmall =>
      subst hbytes
      intro heq
      rcases reading_small hzero havail hsmall with hwaits | hdispatched
      · have hlt := exactReading_awaited f.recvBuffer
        rw [← heq, hwaits.left] at hlt
        exact Nat.lt_irrefl _ hlt
      · rcases hdispatched with ⟨frame, rest, hframes, hsize⟩
        have hlarge := exactReading_large f.recvBuffer frame
        rw [← heq, hframes] at hlarge
        have hlt := hlarge List.mem_cons_self
        rw [hsize] at hlt
        exact absurd hlt (by decide)
  | @later bytes hlarge hcomplete hrest ih =>
      subst hbytes
      intro heq
      rw [reading_complete hzero hlarge hcomplete,
        exactReading_complete hlarge hcomplete] at heq
      apply ih (f := f.afterFrame) rfl rfl
      have hframes := (List.cons.inj (congrArg Reading.frames heq)).right
      have hawaited := congrArg Reading.awaited heq
      have hunread := congrArg Reading.unread heq
      generalize f.afterFrame.reading = reading at hframes hawaited hunread ⊢
      cases reading
      cases hframes
      cases hawaited
      cases hunread
      rfl

end Framing

namespace Receiver

/-- What a new session dispatches and where it stops. -/
def reading (garbage : Nat -> UInt8) (streamType : StreamType)
    (chunks : List (List UInt8)) : Reading :=
  let result := (start garbage streamType).receiveAll garbage chunks
  { frames := result.2.map Message.frame
    awaited := result.1.currentMessageSize
    unread := result.1.stream.recvBuffer }

theorem reading_eq (garbage : Nat -> UInt8) (streamType : StreamType)
    (chunks : List (List UInt8)) :
    reading garbage streamType chunks =
      Framing.reading
        { recvBuffer := chunks.flatten
          currentMessage := { id := 0, size := 0 } } := by
  rw [Framing.reading, ← receiveAll_drains garbage streamType chunks]
  rfl

/--
A session reads the stream exactly, whatever the chunks, if and only if no
header in it announces 4 bytes or less.
-/
theorem reading_exact_iff (garbage : Nat -> UInt8) (streamType : StreamType)
    (chunks : List (List UInt8)) :
    reading garbage streamType chunks = exactReading chunks.flatten ↔
      ¬AnnouncesTooLittle chunks.flatten := by
  rw [reading_eq]
  constructor
  · intro hexact htoo
    exact Framing.reading_not_exact
      (f := { recvBuffer := chunks.flatten
              currentMessage := { id := 0, size := 0 } }) rfl htoo hexact
  · intro hnone
    exact Framing.reading_exact
      (f := { recvBuffer := chunks.flatten
              currentMessage := { id := 0, size := 0 } }) rfl hnone

/-- A header that announces nothing swallows the frame that follows. -/
theorem not_reading_exact_empty_header :
    ¬forall (garbage : Nat -> UInt8) (streamType : StreamType)
      (chunks : List (List UInt8)),
      reading garbage streamType chunks = exactReading chunks.flatten := by
  intro h
  have hexact := h (fun _ => 0) StreamType.socket
    [[1, 0, 0, 0, 2, 0, 5, 0, 7]]
  rw [reading_eq] at hexact
  exact Framing.reading_not_exact
    (f := { recvBuffer := [1, 0, 0, 0, 2, 0, 5, 0, 7]
            currentMessage := { id := 0, size := 0 } }) rfl
    (AnnouncesTooLittle.here (by decide) (by decide)) hexact

end Receiver

end Log
end Rzu
