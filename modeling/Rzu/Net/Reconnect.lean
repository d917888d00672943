import Rzu.Net.Session

/-!
# Reconnect isolation

Connecting again resets the message under way and the cipher, but not the
receive buffer of a stream that is reused.  Bytes left there become the first
bytes of the next connection.
-/

namespace Rzu
namespace Net

open Library

/-- Headers that announce no body and fill the bytes up. -/
inductive InvalidHeaders : List UInt8 -> Prop where
  | nil : InvalidHeaders []
  | header {bytes : List UInt8} (havail : 4 ≤ bytes.length)
      (hsmall : leNat (bytes.take 4) ≤ 4)
      (hrest : InvalidHeaders (bytes.drop 4)) : InvalidHeaders bytes

/-- Bytes that a connection reads without leaving a trace. -/
structure Unnoticed {state : Type} (C : StreamCipher state) (key : state)
    (bytes : List UInt8) : Prop where
  headers : InvalidHeaders (C.encode key bytes).1
  keyByte : forall n, C.keyByte key (bytes.length + n) = C.keyByte key n

theorem invalidHeaders_zeros (count : Nat) :
    InvalidHeaders (List.replicate (4 * count) 0) := by
  induction count with
  | zero => exact InvalidHeaders.nil
  | succ count ih =>
      have hsplit : List.replicate (4 * (count + 1)) (0 : UInt8) =
          [0, 0, 0, 0] ++ List.replicate (4 * count) 0 := by
        rw [Nat.mul_succ, Nat.add_comm, List.replicate_add]
        rfl
      apply InvalidHeaders.header
      · rw [List.length_replicate]
        lia
      · rw [hsplit]
        change leNat [0, 0, 0, 0] ≤ 4
        decide
      · rw [hsplit]
        exact ih

section Packets

variable {state : Type} (C : StreamCipher state)

/-- Framers that differ only where the frames to come do not depend on it. -/
structure Framing.Alike (f g : Framing state) : Prop where
  recvBuffer : f.recvBuffer = g.recvBuffer
  currentMessageSize : f.currentMessageSize = g.currentMessageSize
  discardPacket : f.currentMessageSize ≠ 0 ->
    f.discardPacket = g.discardPacket
  keyByte : forall n, C.keyByte f.inputEnc n = C.keyByte g.inputEnc n

namespace Framing.Alike

variable {C} {f g : Framing state}

theorem run_take (h : Framing.Alike C f g) (n : Nat) :
    (C.transform.run f.inputEnc (f.recvBuffer.take n)).1 =
      (C.transform.run g.inputEnc (g.recvBuffer.take n)).1 := by
  rw [h.recvBuffer]
  exact C.encode_congr fun i _ => h.keyByte i

theorem keyByte_run_take (h : Framing.Alike C f g) (m n : Nat) :
    C.keyByte (C.transform.run f.inputEnc (f.recvBuffer.take m)).2 n =
      C.keyByte (C.transform.run g.inputEnc (g.recvBuffer.take m)).2 n := by
  change C.keyByte (C.encode _ _).2 n = C.keyByte (C.encode _ _).2 n
  rw [C.encode_state, C.encode_state, C.keyByte_advance, C.keyByte_advance,
    h.recvBuffer, h.keyByte]

theorem waiting (h : Framing.Alike C f g) (hwait : f.Waiting) :
    g.Waiting := by
  have hrecv := h.recvBuffer
  have hsize := h.currentMessageSize
  have hflag := h.discardPacket
  cases hwait with
  | header hzero hshort =>
      exact Waiting.header (hsize ▸ hzero) (hrecv ▸ hshort)
  | skip hne hdiscard hempty =>
      exact Waiting.skip (hsize ▸ hne) (hflag hne ▸ hdiscard)
        (hrecv ▸ hempty)
  | body hne hkeep hshort =>
      exact Waiting.body (hsize ▸ hne) (hflag hne ▸ hkeep)
        (hsize ▸ hrecv ▸ hshort)

theorem startFrame (h : Framing.Alike C f g) :
    Framing.Alike C (f.startFrame C.transform)
      (g.startFrame C.transform) := by
  have hannounced : f.announcedSize C.transform =
      g.announcedSize C.transform :=
    congrArg leNat (h.run_take 4)
  have hdrop : f.recvBuffer.drop 4 = g.recvBuffer.drop 4 :=
    congrArg (List.drop 4) h.recvBuffer
  unfold Framing.startFrame
  rw [hannounced]
  split
  · exact ⟨hdrop, rfl, fun hne => absurd rfl hne, h.keyByte_run_take 4⟩
  · exact ⟨hdrop, rfl, fun _ => rfl, h.keyByte_run_take 4⟩

theorem step (h : Framing.Alike C f g) {f' : Framing state}
    {out : List Frame} (hstep : f.step C.transform = some (f', out)) :
    exists g', g.step C.transform = some (g', out) ∧
      Framing.Alike C f' g' := by
  have hrecv := h.recvBuffer
  have hsize := h.currentMessageSize
  have hflag := h.discardPacket
  cases step_cases C.transform hstep with
  | header hzero havail =>
      refine ⟨_, step_of_header _ (hsize ▸ hzero) (hrecv ▸ havail), ?_⟩
      exact h.startFrame
  | skip hne hdiscard hbuffer =>
      refine ⟨_, step_of_skip _ (hsize ▸ hne) (hflag hne ▸ hdiscard)
        (hrecv ▸ hbuffer), ?_⟩
      refine ⟨congrArg List.tail hrecv, ?_, fun _ => hflag hne, h.keyByte⟩
      change f.currentMessageSize - 1 = g.currentMessageSize - 1
      rw [hsize]
  | body hne hkeep havail =>
      have hframe : f.currentFrame C.transform =
          g.currentFrame C.transform := by
        rw [currentFrame, currentFrame, h.run_take, hsize]
      rw [hframe]
      refine ⟨_, step_of_body _ (hsize ▸ hne) (hflag hne ▸ hkeep)
        (hsize ▸ hrecv ▸ havail), ?_⟩
      refine ⟨?_, rfl, fun hne' => absurd rfl hne', ?_⟩
      · change f.recvBuffer.drop _ = g.recvBuffer.drop _
        rw [hrecv, hsize]
      · change forall n, C.keyByte (C.transform.run _ _).2 n =
          C.keyByte (C.transform.run _ _).2 n
        rw [← hsize]
        exact h.keyByte_run_take _

theorem drain (h : Framing.Alike C f g) :
    ((framer C.transform).drain f).2 = ((framer C.transform).drain g).2 := by
  have hsame := (framer C.transform).drain_of_simulation
    (framer C.transform) (R := Framing.Alike C) (fun frame => frame)
    (fun hrel hidle => (Framing.idle_iff _).mpr
      (hrel.waiting ((Framing.idle_iff _).mp hidle)))
    (fun hrel hstep => by
      rw [List.map_id']
      exact hrel.step hstep) h
  rw [List.map_id'] at hsame
  exact hsame.right

end Framing.Alike

/-- A connection that has received some bytes, and nothing before them. -/
def Framing.received (key : state) (bytes : List UInt8) : Framing state where
  recvBuffer := bytes
  currentMessageSize := 0
  discardPacket := false
  bufferSize := 0
  inputEnc := key

def packetsFrom (key : state) (bytes : List UInt8) : List Frame :=
  ((framer C.transform).drain (Framing.received key bytes)).2

theorem drain_eq_packetsFrom {f : Framing state}
    (hzero : f.currentMessageSize = 0) :
    ((framer C.transform).drain f).2 =
      packetsFrom C f.inputEnc f.recvBuffer := by
  apply Framing.Alike.drain
  exact ⟨rfl, hzero, fun hne => absurd hzero hne, fun _ => rfl⟩

theorem packetsFrom_congr {key key' : state}
    (h : forall n, C.keyByte key n = C.keyByte key' n)
    (bytes : List UInt8) :
    packetsFrom C key bytes = packetsFrom C key' bytes := by
  apply Framing.Alike.drain
  exact ⟨rfl, rfl, fun _ => rfl, h⟩

theorem packetsFrom_header {key : state} {bytes : List UInt8}
    (havail : 4 ≤ bytes.length)
    (hsmall : leNat ((C.encode key bytes).1.take 4) ≤ 4) :
    packetsFrom C key bytes =
      packetsFrom C (C.advance key 4) (bytes.drop 4) := by
  rw [C.encode_take] at hsmall
  rw [packetsFrom,
    Framing.drain_invalid (f := Framing.received key bytes) rfl havail
      hsmall,
    drain_eq_packetsFrom C rfl]
  change packetsFrom C (C.encode key (bytes.take 4)).2 _ = _
  rw [C.encode_state, List.length_take, Nat.min_eq_left havail]
  rfl

theorem packetsFrom_append {key : state} {bytes : List UInt8}
    (h : InvalidHeaders (C.encode key bytes).1) (rest : List UInt8) :
    packetsFrom C key (bytes ++ rest) =
      packetsFrom C (C.advance key bytes.length) rest := by
  generalize hplain : (C.encode key bytes).1 = plain at h
  induction h generalizing key bytes with
  | nil =>
      have hlen := C.encode_length key bytes
      rw [hplain, List.length_nil] at hlen
      rw [List.eq_nil_of_length_eq_zero hlen.symm]
      rfl
  | header havail hsmall _ ih =>
      rw [← hplain] at hsmall
      rw [← hplain, C.encode_length] at havail
      have hheader : leNat ((C.encode key (bytes ++ rest)).1.take 4) ≤ 4 := by
        rw [C.encode_take, List.take_append_of_le_length havail,
          ← C.encode_take]
        exact hsmall
      have hdrop : (C.encode (C.advance key 4) (bytes.drop 4)).1 =
          List.drop 4 _ := (C.encode_drop key bytes 4).symm
      have hlength : 4 + (bytes.drop 4).length = bytes.length := by
        rw [List.length_drop]
        lia
      rw [packetsFrom_header C (by rw [List.length_append]; lia) hheader,
        List.drop_append_of_le_length havail,
        ih (hdrop.trans (congrArg _ hplain)), ← C.advance_add, hlength]

theorem packetsFrom_unnoticed {key : state} {bytes : List UInt8}
    (h : Unnoticed C key bytes) (rest : List UInt8) :
    packetsFrom C key (bytes ++ rest) = packetsFrom C key rest := by
  rw [packetsFrom_append C h.headers]
  apply packetsFrom_congr
  intro n
  rw [C.keyByte_advance]
  exact h.keyByte n

/-!
## Telling two positions apart
-/

theorem packetsFrom_zeros (key : state) (count : Nat) :
    packetsFrom C key
      (C.encode key (List.replicate count 0)).1 = [] := by
  induction hn : count using Nat.strongRecOn generalizing key count with
  | ind n ih =>
      subst hn
      have hlen := C.encode_length key (List.replicate count 0)
      rw [List.length_replicate] at hlen
      by_cases hshort : count ≤ 4
      · exact Framing.drain_of_length_le_four
          (f := Framing.received key _) rfl (by rw [← hlen] at hshort; exact hshort)
      · have hplain : List.replicate count (0 : UInt8) =
            [0, 0, 0, 0] ++ List.replicate (count - 4) 0 := by
          change _ = List.replicate 4 0 ++ _
          rw [← List.replicate_add]
          congr 1
          lia
        have hheader : leNat ((C.encode key (C.encode key
            (List.replicate count 0)).1).1.take 4) ≤ 4 := by
          rw [C.encode_encode, hplain]
          change leNat [0, 0, 0, 0] ≤ 4
          decide
        rw [packetsFrom_header C (by lia) hheader, C.encode_drop, hplain]
        exact ih (count - 4) (by lia) (C.advance key 4) (count - 4) rfl

theorem packetsFrom_shortest (key : state) (x : UInt8) :
    exists rest, packetsFrom C key (C.encode key [5, 0, 0, 0, x]).1 =
      ⟨5, [x]⟩ :: rest := by
  have hlen : (C.encode key [5, 0, 0, 0, x]).1.length = 5 :=
    C.encode_length key _
  apply Framing.drain_shortestPacket (f := Framing.received key _) rfl
  change (C.encode key ((C.encode key [5, 0, 0, 0, x]).1.take 5)).1 = _
  rw [List.take_of_length_le (Nat.le_of_eq hlen), C.encode_encode]

theorem encode_take_of_packetsFrom {key : state} {bytes : List UInt8}
    {x : UInt8} {rest : List Frame} (hlen : bytes.length ≤ 8)
    (h : packetsFrom C key bytes = ⟨5, [x]⟩ :: rest) :
    (C.encode key (bytes.take 5)).1 = [5, 0, 0, 0, x] :=
  Framing.run_of_drain_shortestPacket (T := C.transform)
    (f := Framing.received key bytes) rfl hlen h

theorem packetsFrom_partial_header (key key' : state)
    {bytes : List UInt8} (hne : bytes ≠ []) (hlen : bytes.length < 4) :
    exists rest, rest ≠ [] ∧
      packetsFrom C key' (bytes ++ rest) ≠ packetsFrom C key rest := by
  have hpos := List.length_pos_iff.mpr hne
  by_contra hsame
  have hdecode : forall x : UInt8,
      (C.encode key' (bytes ++ (C.encode key
        ([5, 0, 0, 0].take (5 - bytes.length))).1)).1 =
          [5, 0, 0, 0, x] := by
    intro x
    have hpacket : (C.encode key [5, 0, 0, 0, x]).1.length = 5 :=
      C.encode_length key _
    have hnonempty : (C.encode key [5, 0, 0, 0, x]).1 ≠ [] := by
      apply List.length_pos_iff.mp
      lia
    have hequal : packetsFrom C key'
        (bytes ++ (C.encode key [5, 0, 0, 0, x]).1) =
          packetsFrom C key (C.encode key [5, 0, 0, 0, x]).1 := by
      by_contra hdiffer
      exact hsame ⟨_, hnonempty, hdiffer⟩
    rcases packetsFrom_shortest C key x with ⟨rest, hrest⟩
    rw [hrest] at hequal
    have htake : [5, 0, 0, 0, x].take (5 - bytes.length) =
        [5, 0, 0, 0].take (5 - bytes.length) := by
      change ([5, 0, 0, 0] ++ [x]).take _ = _
      apply List.take_append_of_le_length
      change 5 - bytes.length ≤ 4
      lia
    have hfive := encode_take_of_packetsFrom C
      (by rw [List.length_append]; lia) hequal
    rw [List.take_append, List.take_of_length_le (by lia), C.encode_take,
      htake] at hfive
    exact hfive
  have htwo := (hdecode 0).symm.trans (hdecode 1)
  exact absurd htwo (by decide)

theorem packetsFrom_partial_body (key key' : state) {bytes : List UInt8}
    (hlen : bytes.length + 4 < maxPacketSize) (havail : 4 ≤ bytes.length)
    (hlarge : ¬ leNat ((C.encode key' bytes).1.take 4) ≤ 4) :
    exists rest, rest ≠ [] ∧
      packetsFrom C key' (bytes ++ rest) ≠ packetsFrom C key rest := by
  have hsize : forall rest,
      (Framing.received key' (bytes ++ rest)).announcedSize C.transform =
        leNat ((C.encode key' bytes).1.take 4) := by
    intro rest
    change leNat (C.encode key' ((bytes ++ rest).take 4)).1 = _
    rw [List.take_append_of_le_length havail, C.encode_take]
  by_cases hover :
      maxPacketSize < leNat ((C.encode key' bytes).1.take 4)
  · -- the packet is swallowed by the oversized frame
    have hpacket : (C.encode key [5, 0, 0, 0, 0]).1.length = 5 :=
      C.encode_length key _
    refine ⟨(C.encode key [5, 0, 0, 0, 0]).1, ?_, ?_⟩
    · apply List.length_pos_iff.mp
      lia
    · rcases packetsFrom_shortest C key 0 with ⟨rest, hrest⟩
      have hswallowed := Framing.drain_oversized_incomplete
        (T := C.transform)
        (f := Framing.received key'
          (bytes ++ (C.encode key [5, 0, 0, 0, 0]).1)) rfl
        (by
          change 4 ≤ (bytes ++ _).length
          rw [List.length_append]
          lia)
        (by rw [hsize]; exact hover)
        (by
          rw [hsize]
          change (bytes ++ _).length < _
          rw [List.length_append]
          lia)
      rw [hrest, packetsFrom, hswallowed]
      exact (List.cons_ne_nil _ _).symm
  · -- zeros complete the frame, and are no packet of their own
    let count := leNat ((C.encode key' bytes).1.take 4) - bytes.length + 1
    have hcount : (C.encode key (List.replicate count 0)).1.length =
        count := by
      rw [C.encode_length, List.length_replicate]
    refine ⟨(C.encode key (List.replicate count 0)).1, ?_, ?_⟩
    · apply List.length_pos_iff.mp
      rw [hcount]
      exact Nat.succ_pos _
    · have hcompleted := Framing.drain_packet (T := C.transform)
        (f := Framing.received key'
          (bytes ++ (C.encode key (List.replicate count 0)).1)) rfl
        (by rw [hsize]; lia) (by rw [hsize]; lia)
        (by
          rw [hsize]
          change _ ≤ (bytes ++ _).length
          rw [List.length_append, hcount]
          change _ ≤ bytes.length + (_ - bytes.length + 1)
          lia)
      rw [packetsFrom_zeros, packetsFrom, hcompleted]
      exact List.cons_ne_nil _ _

theorem keyByte_eq_of_packetsFrom {key key' : state}
    (hsame : forall bytes, bytes ≠ [] ->
      packetsFrom C key' bytes = packetsFrom C key bytes) {count : Nat}
    (hkey : forall n, n < 4 * count -> C.keyByte key' n = C.keyByte key n)
    {n : Nat} (hn : n < 5) :
    C.keyByte key' (4 * count + n) = C.keyByte key (4 * count + n) := by
  have hlen : (C.encode key (List.replicate (4 * count) 0)).1.length =
      4 * count := by
    rw [C.encode_length, List.length_replicate]
  have hpacket : (C.encode (C.advance key (4 * count))
      [5, 0, 0, 0, 0]).1.length = 5 :=
    C.encode_length _ _
  have hzeros : forall k, (forall n, n < 4 * count ->
      C.keyByte k n = C.keyByte key n) ->
      InvalidHeaders (C.encode k
        (C.encode key (List.replicate (4 * count) 0)).1).1 := by
    intro k hk
    rw [C.encode_congr (t := key) (by rw [hlen]; exact hk),
      C.encode_encode]
    exact invalidHeaders_zeros count
  have hequal := hsame
    ((C.encode key (List.replicate (4 * count) 0)).1 ++
      (C.encode (C.advance key (4 * count)) [5, 0, 0, 0, 0]).1) (by
        apply List.length_pos_iff.mp
        rw [List.length_append]
        lia)
  rcases packetsFrom_shortest C (C.advance key (4 * count)) 0 with
    ⟨rest, hrest⟩
  rw [packetsFrom_append C (hzeros key' hkey),
    packetsFrom_append C (hzeros key fun _ _ => rfl), hlen, hrest] at hequal
  have hdecoded := encode_take_of_packetsFrom C
    (by lia) hequal
  rw [List.take_of_length_le (Nat.le_of_eq hpacket)] at hdecoded
  have hencoded := congrArg Prod.fst
    (C.encode_encode (C.advance key' (4 * count))
      (C.encode (C.advance key (4 * count)) [5, 0, 0, 0, 0]).1)
  have hagree : (C.encode (C.advance key' (4 * count))
      [5, 0, 0, 0, 0]).1 =
      (C.encode (C.advance key (4 * count)) [5, 0, 0, 0, 0]).1 := by
    rw [hdecoded] at hencoded
    exact hencoded
  rw [← C.keyByte_advance, ← C.keyByte_advance]
  exact C.keyByte_eq_of_encode_eq hagree hn

theorem keyByte_eq_of_packetsFrom_eq {key key' : state}
    (hsame : forall bytes, bytes ≠ [] ->
      packetsFrom C key' bytes = packetsFrom C key bytes) (n : Nat) :
    C.keyByte key' n = C.keyByte key n := by
  induction n using Nat.strongRecOn with
  | ind n ih =>
      have hbelow : forall m, m < 4 * (n / 4) ->
          C.keyByte key' m = C.keyByte key m := by
        intro m hm
        exact ih m (by lia)
      have hnext := keyByte_eq_of_packetsFrom C hsame hbelow
        (n := n % 4) (by lia)
      rw [Nat.div_add_mod] at hnext
      exact hnext

/-- Bytes that never make a difference are headers without a body. -/
theorem unnoticed_of_packetsFrom (key key' : state) {bytes : List UInt8}
    (hlen : bytes.length + 4 < maxPacketSize)
    (hsame : forall rest, rest ≠ [] ->
      packetsFrom C key' (bytes ++ rest) = packetsFrom C key rest) :
    InvalidHeaders (C.encode key' bytes).1 ∧
      forall n, C.keyByte key' (bytes.length + n) = C.keyByte key n := by
  induction hn : bytes.length using Nat.strongRecOn
    generalizing bytes key' with
  | ind n ih =>
      subst hn
      by_cases hempty : bytes = []
      · subst hempty
        refine ⟨InvalidHeaders.nil, ?_⟩
        intro n
        rw [List.length_nil, Nat.zero_add]
        exact keyByte_eq_of_packetsFrom_eq C hsame n
      by_cases hshort : bytes.length < 4
      · rcases packetsFrom_partial_header C key key' hempty
          hshort with ⟨rest, hrest, hdiffer⟩
        exact absurd (hsame rest hrest) hdiffer
      have havail : 4 ≤ bytes.length := by
        lia
      by_cases hsmall : leNat ((C.encode key' bytes).1.take 4) ≤ 4
      · have hheader : forall rest,
            leNat ((C.encode key' (bytes ++ rest)).1.take 4) ≤ 4 := by
          intro rest
          rw [C.encode_take, List.take_append_of_le_length havail,
            ← C.encode_take]
          exact hsmall
        have hdrop : (bytes.drop 4).length = bytes.length - 4 :=
          List.length_drop
        rcases ih (bytes.drop 4).length (by lia) (C.advance key' 4) (by lia)
          (by
            intro rest hrest
            rw [← hsame rest hrest, packetsFrom_header C
              (by rw [List.length_append]; lia) (hheader rest),
              List.drop_append_of_le_length havail]) rfl with
          ⟨hheaders, hkey⟩
        constructor
        · apply InvalidHeaders.header
          · rw [C.encode_length]
            exact havail
          · exact hsmall
          · rw [C.encode_drop]
            exact hheaders
        · intro n
          rw [← hkey n, C.keyByte_advance]
          congr 1
          lia
      · rcases packetsFrom_partial_body C key key' hlen havail hsmall
          with ⟨rest, hrest, hdiffer⟩
        exact absurd (hsame rest hrest) hdiffer

end Packets

/-!
## The next connection
-/

namespace Receiver

variable {cipher : Type} (T : ByteTransform cipher)
variable (garbage : Nat -> UInt8)

theorem receiveAll_of_flatten_eq_nil (r : Receiver cipher)
    {chunks : List (List UInt8)} (hempty : chunks.flatten = []) :
    r.receiveAll T garbage chunks = (r, []) := by
  induction chunks with
  | nil => rfl
  | cons chunk rest ih =>
      rcases List.append_eq_nil_iff.mp hempty with ⟨hchunk, hrest⟩
      have hskip : r.dataReceived T garbage chunk = (r, []) := by
        rw [dataReceived, if_pos hchunk]
      rw [receiveAll, hskip]
      simp only [ih hrest]
      rfl

theorem dispatched_of_flatten_ne_nil (r : Receiver cipher)
    {chunks : List (List UInt8)} (hloud : chunks.flatten ≠ []) :
    r.dispatched T garbage chunks =
      ((framer T).drain (r.framing.feed chunks.flatten)).2 := by
  induction chunks with
  | nil => exact absurd rfl hloud
  | cons chunk rest ih =>
      by_cases hchunk : chunk = []
      · subst hchunk
        exact ih hloud
      · have hfirst : r.dataReceived T garbage chunk =
            ({ r with stream := r.stream.appendReceived chunk } :
              Receiver cipher).onDataReceived T garbage := by
          rw [dataReceived, if_neg hchunk]
        have hrefines := onDataReceived_refines T garbage
          { r with stream := r.stream.appendReceived chunk }
        rw [← hfirst] at hrefines
        have hframing := congrArg Prod.fst hrefines
        have hframes := congrArg Prod.snd hrefines
        change (r.dataReceived T garbage chunk).1.framing =
          ((framer T).drain ((framer T).feed r.framing chunk)).1
            at hframing
        change (r.dataReceived T garbage chunk).2.map Message.frame =
          ((framer T).drain ((framer T).feed r.framing chunk)).2
            at hframes
        have hidle : (framer T).step
            (r.dataReceived T garbage chunk).1.framing = none := by
          rw [hframing]
          exact (framer T).step_drain _
        have hrest := congrArg Prod.snd
          (receiveAll_eq_drain T garbage hidle rest)
        change (r.dataReceived T garbage chunk).1.dispatched T garbage rest =
          ((framer T).drain ((framer T).feed _ rest.flatten)).2 at hrest
        have hfeed : r.framing.feed (chunk :: rest).flatten =
            (framer T).feed ((framer T).feed r.framing chunk)
              rest.flatten := by
          rw [List.flatten_cons, ← Consumer.feed_append]
          rfl
        rw [hfeed, Consumer.drain_feed, ← hframing, ← hrest, ← hframes,
          dispatched, dispatched, receiveAll, List.map_append]

end Receiver

namespace Session

variable {cipher : Type} (T : ByteTransform cipher)
variable (garbage : Nat -> UInt8) (cachedCipher : cipher)

/-- A session after some history, once its connection is lost. -/
def afterLoss (history : List SessionEvent) : Session cipher :=
  ((create garbage cachedCipher).run T garbage cachedCipher history).1.lost

/-- The next connection dispatches what a fresh session would dispatch. -/
def Isolated (s : Session cipher) (streamType : StreamType) : Prop :=
  forall (garbage' : Nat -> UInt8) (chunks : List (List UInt8)),
    (s.establish cachedCipher streamType).dispatched
        T garbage cachedCipher chunks =
      ((create garbage' cachedCipher).establish
        cachedCipher streamType).dispatched T garbage' cachedCipher chunks

theorem afterLoss_unfinished (history : List SessionEvent) :
    (afterLoss T garbage cachedCipher history).Unfinished := by
  have hreached := run_unfinished T garbage cachedCipher
    (create_unfinished garbage cachedCipher) history
  have hclosing := step_unfinished T garbage cachedCipher hreached
    SessionEvent.closing
  exact step_unfinished T garbage cachedCipher hclosing SessionEvent.closed

end Session

section Isolation

variable {state : Type} (C : StreamCipher state) (key : state)
variable (garbage : Nat -> UInt8)

theorem Session.dispatched_create (streamType : StreamType)
    (chunks : List (List UInt8)) :
    ((Session.create garbage key).establish key streamType).dispatched
        C.transform garbage key chunks =
      packetsFrom C key chunks.flatten := by
  have hdrain := Receiver.receiveAll_eq_drain C.transform garbage
    (start_idle _ garbage streamType key) chunks
  rw [Session.establish_create, Session.dispatched_ofReceiver _ _ _ rfl]
  exact (congrArg Prod.snd hdrain).trans (drain_eq_packetsFrom C rfl)

theorem Session.dispatched_establish_lost (s : Session state)
    (streamType : StreamType) {chunks : List (List UInt8)}
    (hloud : chunks.flatten ≠ []) :
    (s.lost.establish key streamType).dispatched
        C.transform garbage key chunks =
      packetsFrom C key (s.lost.leftover streamType ++ chunks.flatten) := by
  rw [Session.establish_lost, Session.dispatched_ofReceiver _ _ _ rfl,
    Receiver.dispatched_of_flatten_ne_nil _ _ _ hloud]
  exact drain_eq_packetsFrom C rfl

theorem Session.dispatched_establish_lost_nil (s : Session state)
    (streamType : StreamType) {chunks : List (List UInt8)}
    (hempty : chunks.flatten = []) :
    (s.lost.establish key streamType).dispatched
        C.transform garbage key chunks = [] := by
  rw [Session.establish_lost, Session.dispatched_ofReceiver _ _ _ rfl,
    Receiver.dispatched, Receiver.receiveAll_of_flatten_eq_nil _ _ _ hempty]
  rfl

theorem Session.isolated_iff_unnoticed (history : List SessionEvent)
    (streamType : StreamType) :
    (Session.afterLoss C.transform garbage key history).Isolated
        C.transform garbage key streamType ↔
      Unnoticed C key
        ((Session.afterLoss C.transform garbage key history).leftover
          streamType) := by
  have hlen := Session.leftover_length
    (Session.afterLoss_unfinished C.transform garbage key history)
    streamType
  constructor
  · intro hisolated
    have hnoticed := unnoticed_of_packetsFrom C key key hlen (by
        intro rest hrest
        have hflatten : [rest].flatten = rest := List.append_nil rest
        have hsame := hisolated garbage [rest]
        rw [Session.afterLoss, Session.dispatched_establish_lost
            C key garbage _ streamType (by rw [hflatten]; exact hrest),
          Session.dispatched_create, hflatten] at hsame
        exact hsame)
    exact ⟨hnoticed.left, hnoticed.right⟩
  · intro hunnoticed garbage' chunks
    rw [Session.dispatched_create]
    by_cases hempty : chunks.flatten = []
    · rw [Session.afterLoss, Session.dispatched_establish_lost_nil
        C key garbage _ streamType hempty, hempty]
      exact (Framing.drain_of_length_le_four
        (f := Framing.received key []) rfl (Nat.zero_le 4)).symm
    · rw [Session.afterLoss, Session.dispatched_establish_lost
        C key garbage _ streamType hempty]
      exact packetsFrom_unnoticed C hunnoticed _

theorem unnoticed_plain_iff (bytes : List UInt8) :
    Unnoticed StreamCipher.plain () bytes ↔ InvalidHeaders bytes := by
  have hplain : (StreamCipher.plain.encode () bytes).1 = bytes := by
    rw [StreamCipher.encode, StreamCipher.plain_transform,
      ByteTransform.run_identity]
  constructor
  · intro h
    have hheaders := h.headers
    rw [hplain] at hheaders
    exact hheaders
  · intro h
    exact ⟨by rw [hplain]; exact h, fun _ => rfl⟩

end Isolation

theorem reconnect_isolated_iff (garbage : Nat -> UInt8)
    (history : List SessionEvent) (streamType : StreamType) :
    ((Session.afterLoss ByteTransform.identity garbage () history).Isolated
          ByteTransform.identity garbage () streamType ↔
        InvalidHeaders
          ((Session.afterLoss ByteTransform.identity garbage ()
            history).leftover streamType)) ∧
      forall (state : Type) (C : StreamCipher state) (key : state),
        (Session.afterLoss C.transform garbage key history).Isolated
            C.transform garbage key streamType ↔
          Unnoticed C key
            ((Session.afterLoss C.transform garbage key history).leftover
              streamType) := by
  constructor
  · rw [← unnoticed_plain_iff, ← StreamCipher.plain_transform]
    exact Session.isolated_iff_unnoticed StreamCipher.plain () garbage
      history streamType
  · intro state C key
    exact Session.isolated_iff_unnoticed C key garbage history streamType

theorem packetsFrom_plain (bytes : List UInt8) :
    packetsFrom StreamCipher.plain () bytes = packetFrames bytes := by
  rw [packetsFrom, StreamCipher.plain_transform, drain_eq_packetFrames _ rfl]
  rfl

theorem afterLoss_partial_header :
    (Session.afterLoss ByteTransform.identity (fun _ => 0) ()
        [SessionEvent.connect StreamType.socket, SessionEvent.connected,
          SessionEvent.received [6, 0]]).leftover StreamType.socket =
      [6, 0] := by
  have hreceived : (Receiver.start (fun _ => 0) StreamType.socket
      ()).dataReceived ByteTransform.identity (fun _ => 0) [6, 0] =
      ({ Receiver.start (fun _ => 0) StreamType.socket () with
        stream := (Receiver.start (fun _ => 0) StreamType.socket
          ()).stream.appendReceived [6, 0] }, []) := by
    rw [Receiver.dataReceived, if_neg (by decide)]
    exact Receiver.onDataReceived_of_none _ _ rfl
  change (Session.ofReceiver ((Receiver.start (fun _ => 0) StreamType.socket
    ()).dataReceived ByteTransform.identity (fun _ => 0)
      [6, 0]).1).lost.leftover StreamType.socket = _
  rw [hreceived]
  rfl

/-- Two bytes of an unfinished header spoil the next connection. -/
theorem reconnect_not_isolated :
    ¬ (Session.afterLoss ByteTransform.identity (fun _ => 0) ()
        [SessionEvent.connect StreamType.socket, SessionEvent.connected,
          SessionEvent.received [6, 0]]).Isolated
      ByteTransform.identity (fun _ => 0) () StreamType.socket := by
  intro hisolated
  have hsame := hisolated (fun _ => 0) [[5, 0, 0, 0, 1]]
  have hleftover := afterLoss_partial_header
  have hloud : [[(5 : UInt8), 0, 0, 0, 1]].flatten ≠ [] := by
    decide
  rw [← StreamCipher.plain_transform] at hsame hleftover
  rw [Session.dispatched_create, Session.afterLoss,
    Session.dispatched_establish_lost _ _ _ _ _ hloud,
    ← Session.afterLoss, hleftover, packetsFrom_plain,
    packetsFrom_plain] at hsame
  have hfresh : packetFrames [[5, 0, 0, 0, 1]].flatten = [⟨5, [1]⟩] :=
    packetFrames_shortest 1
  -- the leftover turns the packet into a frame of 327686 bytes
  have hspoiled :
      packetFrames ([6, 0] ++ [[5, 0, 0, 0, 1]].flatten) = [] :=
    packetFrames_incomplete (by decide) (by decide) (by decide)
  rw [hfresh, hspoiled] at hsame
  cases hsame

end Net
end Rzu
