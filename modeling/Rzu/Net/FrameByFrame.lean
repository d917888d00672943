import Rzu.Net.Framing

/-!
# Draining one frame

Between two frames the framer looks at the next header only.  These lemmas say
what draining does with the frame that follows it, for each kind of announced
size.
-/

namespace Rzu
namespace Net

open Library

namespace Framing

variable {cipher : Type} (T : ByteTransform cipher)

/-- The state after a header that announces no body. -/
def afterInvalid (f : Framing cipher) : Framing cipher :=
  { f with
    recvBuffer := f.recvBuffer.drop 4
    inputEnc := (T.run f.inputEnc (f.recvBuffer.take 4)).2 }

/-- The state after a complete oversized frame: only its header was read. -/
def afterOversized (f : Framing cipher) : Framing cipher :=
  { f with
    recvBuffer := f.recvBuffer.drop (f.announcedSize T)
    discardPacket := true
    inputEnc := (T.run f.inputEnc (f.recvBuffer.take 4)).2 }

def afterPacket (f : Framing cipher) : Framing cipher :=
  { f with
    recvBuffer := f.recvBuffer.drop (f.announcedSize T)
    discardPacket := false
    bufferSize := max f.bufferSize (f.announcedSize T)
    inputEnc :=
      (T.run f.inputEnc (f.recvBuffer.take (f.announcedSize T))).2 }

def nextPacket (f : Framing cipher) : Frame where
  size := f.announcedSize T
  body :=
    (T.run f.inputEnc
      (f.recvBuffer.take (f.announcedSize T))).1.drop 4

variable {T} {f : Framing cipher}

theorem drain_short (hzero : f.currentMessageSize = 0)
    (hshort : f.recvBuffer.length < 4) :
    (framer T).drain f = (f, []) :=
  Consumer.drain_of_none _
    ((idle_iff T).mpr (Waiting.header hzero hshort))

theorem drain_startFrame (hzero : f.currentMessageSize = 0)
    (havail : 4 ≤ f.recvBuffer.length) :
    (framer T).drain f = (framer T).drain (f.startFrame T) := by
  have hstep : (framer T).step f = some (f.startFrame T, []) :=
    step_of_header T hzero havail
  rw [Consumer.drain_of_some _ hstep, List.nil_append]

theorem drain_invalid (hzero : f.currentMessageSize = 0)
    (havail : 4 ≤ f.recvBuffer.length) (hsmall : f.announcedSize T ≤ 4) :
    (framer T).drain f = (framer T).drain (f.afterInvalid T) := by
  rw [drain_startFrame hzero havail, startFrame, if_pos hsmall,
    afterInvalid, ← hzero]

theorem startFrame_of_large (hlarge : 4 < f.announcedSize T) :
    f.startFrame T =
      { f with
        recvBuffer := f.recvBuffer.drop 4
        currentMessageSize := f.announcedSize T - 4
        discardPacket := decide (f.announcedSize T > maxPacketSize)
        inputEnc := (T.run f.inputEnc (f.recvBuffer.take 4)).2 } := by
  rw [startFrame, if_neg (by lia)]

theorem large_of_oversized {size : Nat} (hover : maxPacketSize < size) :
    4 < size := by
  unfold maxPacketSize at hover
  lia

theorem drain_oversized (hzero : f.currentMessageSize = 0)
    (havail : 4 ≤ f.recvBuffer.length)
    (hover : maxPacketSize < f.announcedSize T)
    (hcomplete : f.announcedSize T ≤ f.recvBuffer.length) :
    (framer T).drain f = (framer T).drain (f.afterOversized T) := by
  have hlarge := large_of_oversized hover
  have hsum : 4 + (f.announcedSize T - 4) = f.announcedSize T := by
    lia
  rw [drain_startFrame hzero havail, startFrame_of_large hlarge,
    drain_discard T _ (f.announcedSize T - 4) (decide_eq_true hover)
      (Nat.le_refl _) (by simp only [List.length_drop]; lia),
    afterOversized]
  simp only [List.drop_drop, hsum, hzero, Nat.sub_self,
    decide_eq_true hover]

theorem drain_oversized_incomplete (hzero : f.currentMessageSize = 0)
    (havail : 4 ≤ f.recvBuffer.length)
    (hover : maxPacketSize < f.announcedSize T)
    (hincomplete : f.recvBuffer.length < f.announcedSize T) :
    ((framer T).drain f).2 = [] := by
  rw [drain_startFrame hzero havail,
    startFrame_of_large (large_of_oversized hover)]
  apply drain_discard_incomplete
  · exact decide_eq_true hover
  · simp only [List.length_drop]
    lia

theorem drain_packet (hzero : f.currentMessageSize = 0)
    (hlarge : 4 < f.announcedSize T)
    (hfits : f.announcedSize T ≤ maxPacketSize)
    (hcomplete : f.announcedSize T ≤ f.recvBuffer.length) :
    (framer T).drain f =
      (((framer T).drain (f.afterPacket T)).1,
        f.nextPacket T :: ((framer T).drain (f.afterPacket T)).2) := by
  have hsum : 4 + (f.announcedSize T - 4) = f.announcedSize T := by
    lia
  have hkeep : decide (f.announcedSize T > maxPacketSize) = false :=
    decide_eq_false (by lia)
  have hsize : f.announcedSize T - 4 + 4 = f.announcedSize T := by
    lia
  have hsplit : f.recvBuffer.take (f.announcedSize T) =
      f.recvBuffer.take 4 ++
        (f.recvBuffer.drop 4).take (f.announcedSize T - 4) := by
    rw [← List.take_add, hsum]
  have hrun := T.run_append f.inputEnc (f.recvBuffer.take 4)
    ((f.recvBuffer.drop 4).take (f.announcedSize T - 4))
  rw [← hsplit] at hrun
  have hheader : (T.run f.inputEnc (f.recvBuffer.take 4)).1.length = 4 := by
    rw [ByteTransform.run_length, List.length_take]
    lia
  have hstep : (framer T).step (f.startFrame T) =
      some (f.afterPacket T, [f.nextPacket T]) := by
    rw [startFrame_of_large hlarge]
    change step T _ = _
    rw [step_of_body T (by simp only; lia) hkeep
      (by simp only [List.length_drop]; lia)]
    simp only [finishFrame, currentFrame, afterPacket, nextPacket, hrun,
      List.drop_drop, hsum, hkeep, hzero, hsize,
      List.drop_left' hheader]
  rw [drain_startFrame hzero (by lia), Consumer.drain_of_some _ hstep]
  rfl

theorem drain_packet_incomplete (hzero : f.currentMessageSize = 0)
    (havail : 4 ≤ f.recvBuffer.length)
    (hlarge : 4 < f.announcedSize T)
    (hfits : f.announcedSize T ≤ maxPacketSize)
    (hincomplete : f.recvBuffer.length < f.announcedSize T) :
    ((framer T).drain f).2 = [] := by
  have hkeep : decide (f.announcedSize T > maxPacketSize) = false :=
    decide_eq_false (by lia)
  have hidle : (framer T).step (f.startFrame T) = none := by
    rw [startFrame_of_large hlarge]
    apply (idle_iff T).mpr
    apply Waiting.body
    · simp only
      lia
    · exact hkeep
    · simp only [List.length_drop]
      lia
  rw [drain_startFrame hzero havail, Consumer.drain_of_none _ hidle]

theorem drain_of_length_le_four (hzero : f.currentMessageSize = 0)
    (hlen : f.recvBuffer.length ≤ 4) :
    ((framer T).drain f).2 = [] := by
  induction hn : f.recvBuffer.length using Nat.strongRecOn
    generalizing f with
  | ind n ih =>
      by_cases hshort : f.recvBuffer.length < 4
      · rw [drain_short hzero hshort]
      have havail : 4 ≤ f.recvBuffer.length := by
        lia
      by_cases hsmall : f.announcedSize T ≤ 4
      · have hdrop : (f.recvBuffer.drop 4).length = 0 := by
          rw [List.length_drop]
          lia
        rw [drain_invalid hzero havail hsmall,
          drain_short (f := f.afterInvalid T) hzero
            (hdrop ▸ Nat.zero_lt_succ 3)]
      · by_cases hover : maxPacketSize < f.announcedSize T
        · exact drain_oversized_incomplete hzero havail hover
            (by lia)
        · exact drain_packet_incomplete hzero havail (by lia)
            (by lia) (by lia)

theorem drain_shortestPacket {x : UInt8} (hzero : f.currentMessageSize = 0)
    (hbytes : (T.run f.inputEnc (f.recvBuffer.take 5)).1 =
      [5, 0, 0, 0, x]) :
    exists rest, ((framer T).drain f).2 = ⟨5, [x]⟩ :: rest := by
  have havail : 5 ≤ f.recvBuffer.length := by
    have hlen := congrArg List.length hbytes
    rw [ByteTransform.run_length, List.length_take] at hlen
    simp only [List.length_cons, List.length_nil] at hlen
    lia
  have hheader : (T.run f.inputEnc (f.recvBuffer.take 4)).1 =
      [5, 0, 0, 0] := by
    have hsplit := List.take_add (l := f.recvBuffer) (i := 4) (j := 1)
    rw [hsplit, ByteTransform.run_append] at hbytes
    have htake := congrArg (List.take 4) hbytes
    rw [List.take_left' (by
      rw [ByteTransform.run_length, List.length_take]
      lia)] at htake
    exact htake
  have hsize : f.announcedSize T = 5 := by
    rw [announcedSize, hheader]
    rfl
  have hnext : f.nextPacket T = ⟨5, [x]⟩ := by
    rw [nextPacket, hsize, hbytes]
    rfl
  have hfits : 5 ≤ maxPacketSize := by
    unfold maxPacketSize
    lia
  rw [drain_packet hzero (by lia) (by lia) (by lia), hnext]
  exact ⟨_, rfl⟩

theorem run_of_drain_shortestPacket {x : UInt8} {rest : List Frame}
    (hzero : f.currentMessageSize = 0) (hlen : f.recvBuffer.length ≤ 8)
    (hdrain : ((framer T).drain f).2 = ⟨5, [x]⟩ :: rest) :
    (T.run f.inputEnc (f.recvBuffer.take 5)).1 = [5, 0, 0, 0, x] := by
  have hnonempty : ((framer T).drain f).2 ≠ [] := by
    rw [hdrain]
    exact List.cons_ne_nil _ _
  have havail : 4 < f.recvBuffer.length := by
    by_contra hshort
    exact hnonempty (drain_of_length_le_four hzero (by lia))
  have hlarge : 4 < f.announcedSize T := by
    by_contra hsmall
    apply hnonempty
    rw [drain_invalid hzero (by lia) (by lia)]
    apply drain_of_length_le_four (f := f.afterInvalid T) hzero
    change (f.recvBuffer.drop 4).length ≤ 4
    rw [List.length_drop]
    lia
  have hfits : f.announcedSize T ≤ maxPacketSize := by
    by_contra hover
    apply hnonempty
    apply drain_oversized_incomplete hzero (by lia) (by lia)
    unfold maxPacketSize at hover
    lia
  have hcomplete : f.announcedSize T ≤ f.recvBuffer.length := by
    by_contra hincomplete
    exact hnonempty
      (drain_packet_incomplete hzero (by lia) hlarge hfits (by lia))
  rw [drain_packet hzero hlarge hfits hcomplete] at hdrain
  have hhead := (List.cons.inj hdrain).left
  have hsize : f.announcedSize T = 5 := congrArg Frame.size hhead
  have hbody : (T.run f.inputEnc (f.recvBuffer.take 5)).1.drop 4 = [x] := by
    have hbodies := congrArg Frame.body hhead
    rw [nextPacket, hsize] at hbodies
    exact hbodies
  have hheader : (T.run f.inputEnc (f.recvBuffer.take 5)).1.take 4 =
      [5, 0, 0, 0] := by
    have hrun := T.run_append f.inputEnc (f.recvBuffer.take 4)
      ((f.recvBuffer.drop 4).take 1)
    have hfour : (T.run f.inputEnc (f.recvBuffer.take 4)).1.length = 4 := by
      rw [ByteTransform.run_length, List.length_take]
      lia
    rw [← List.take_add] at hrun
    rw [hrun, List.take_left' hfour]
    exact leNat_inj hfour hsize
  rw [← List.take_append_drop 4
    (T.run f.inputEnc (f.recvBuffer.take 5)).1, hheader, hbody]
  rfl

end Framing

end Net
end Rzu
