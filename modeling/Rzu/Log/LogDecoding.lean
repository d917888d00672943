import Mathlib.Data.List.TakeWhile
import Rzu.Library.Blocks
import Rzu.Log.LogFraming
import Rzu.Log.LogServerClient

/-!
# What the log server decodes

The handler of log messages reads the lengths as signed integers, so a string
of 32768 characters or more looks empty to it and moves it backwards.
-/

namespace Rzu
namespace Log

open Auth (CharString)
open Library Net

/-- `ClientSession::LogData`, without the date. -/
structure LogData where
  id : UInt16
  threadId : UInt32
  n : Vector Int64 11
  s1 : CharString
  s2 : CharString
  s3 : CharString
  s4 : CharString
deriving DecidableEq

def LogMessage.data (message : LogMessage) : LogData where
  id := message.id
  threadId := message.threadId
  n := message.n
  s1 := message.str1
  s2 := message.str2
  s3 := message.str3
  s4 := message.str4

namespace Message

def field (message : Message) (offset width : Nat) : Nat :=
  leNat (block message offset width)

/-- `int16_t len1` to `len4` -/
def len (message : Message) (i : Nat) : Int :=
  (UInt16.ofNat (message.field (97 + 2 * i) 2)).toInt16.toInt

def expectedSize (message : Message) : Int :=
  fixedSize + message.len 0 + message.len 1 + message.len 2 + message.len 3

def memoryAt (message : Message) (outside : Int -> UInt8) (i : Int) :
    UInt8 :=
  if 0 ≤ i then (message[i.toNat]?).getD (outside i) else outside i

/-- `Utils::convertToString` from a pointer into the message. -/
def stringAt (message : Message) (outside : Int -> UInt8) (p : Int)
    (maxSize : Int) : CharString :=
  ((List.range maxSize.toNat).map fun k : Nat =>
    message.memoryAt outside (p + (k : Int))).takeWhile (· ≠ 0)

/-- `ClientSession::onPacketReceived`, up to the data that is logged. -/
def decode (message : Message) (outside : Int -> UInt8) : Option LogData :=
  if message.expectedSize > (MiniHeader.ofBytes message).size.toNat then
    none
  else
    let p1 : Int := fixedSize
    let p2 := p1 + message.len 0
    let p3 := p2 + message.len 1
    let p4 := p3 + message.len 2
    some
      { id := (MiniHeader.ofBytes message).id
        threadId := UInt32.ofNat (message.field 5 4)
        n := Vector.ofFn fun i =>
          (UInt64.ofNat (message.field (9 + 8 * i) 8)).toInt64
        s1 := message.stringAt outside p1 (message.len 0)
        s2 := message.stringAt outside p2 (message.len 1)
        s3 := message.stringAt outside p3 (message.len 2)
        s4 := message.stringAt outside p4 (message.len 3) }

end Message

/-!
## What is written
-/

namespace LogMessage

variable {message : LogMessage}

/-- A message whose size fits its 16 bits. -/
def Fits (message : LogMessage) : Prop :=
  fixedSize + message.str1.length + message.str2.length +
    message.str3.length + message.str4.length ≤ 65535

/-- A message whose strings are shorter than 32768 characters. -/
structure Short (message : LogMessage) : Prop where
  str1 : message.str1.length < 32768
  str2 : message.str2.length < 32768
  str3 : message.str3.length < 32768
  str4 : message.str4.length < 32768

def body (message : LogMessage) : List UInt8 :=
  message.fixedPart ++ (message.str1 ++ (message.str2 ++
    (message.str3 ++ message.str4)))

def frame (message : LogMessage) : Frame where
  id := message.id
  size := message.packetSize
  body := message.body

theorem lenOf_toNat {str : CharString} (h : str.length ≤ 65535) :
    (lenOf str).toNat = str.length :=
  UInt16.toNat_ofNat_of_lt' (Nat.lt_succ_of_le h)

theorem writtenString_eq {str : CharString} (h : str.length ≤ 65535) :
    writtenString str = str := by
  have hlen := lenOf_toNat h
  rw [writtenString]
  split
  · rw [hlen, List.take_length]
  · rename_i hzero
    have hempty : lenOf str = 0 := Classical.byContradiction hzero
    rw [hempty] at hlen
    exact (List.length_eq_zero_iff.mp hlen.symm).symm

theorem Fits.packetSize_toNat (h : message.Fits) :
    message.packetSize.toNat =
      fixedSize + message.str1.length + message.str2.length +
        message.str3.length + message.str4.length := by
  have hfits := h
  unfold Fits at hfits
  rw [packetSize, lenOf_toNat (by lia), lenOf_toNat (by lia),
    lenOf_toNat (by lia), lenOf_toNat (by lia)]
  exact UInt16.toNat_ofNat_of_lt' (Nat.lt_succ_of_le h)

theorem fixedPart_length (message : LogMessage) :
    message.fixedPart.length = 101 := by
  have hn := length_flatMap_width
    (f := fun n : Int64 => leBytes 8 n.toUInt64.toNat)
    (fun n => leBytes_length 8 _) message.n.toList
  rw [fixedPart]
  simp only [List.length_append, List.length_singleton, leBytes_length, hn,
    Vector.length_toList]

theorem Fits.body_length (h : message.Fits) :
    message.body.length = message.packetSize.toNat - 4 := by
  have hfixed : fixedSize = 105 := rfl
  rw [h.packetSize_toNat, body]
  simp only [List.length_append, fixedPart_length]
  lia

theorem Fits.written_eq (h : message.Fits) :
    message.written =
      leBytes 2 message.id.toNat ++
        (leBytes 2 message.packetSize.toNat ++ message.body) := by
  have hfits := h
  unfold Fits at hfits
  rw [written, writes, writtenString_eq (by lia), writtenString_eq (by lia),
    writtenString_eq (by lia), writtenString_eq (by lia), body]
  simp only [List.flatten_cons, List.flatten_nil, List.append_nil,
    List.append_assoc]

theorem Fits.packetSize_large (h : message.Fits) :
    4 < message.packetSize := by
  have hfixed : fixedSize = 105 := rfl
  apply UInt16.lt_iff_toNat_lt.mpr
  rw [h.packetSize_toNat]
  change 4 < _
  lia

theorem Fits.written_length (h : message.Fits) :
    message.written.length = message.packetSize.toNat := by
  have hlarge : 4 < message.packetSize.toNat :=
    UInt16.lt_iff_toNat_lt.mp h.packetSize_large
  rw [h.written_eq]
  simp only [List.length_append, leBytes_length, h.body_length]
  lia

theorem Fits.header (h : message.Fits) (rest : List UInt8) :
    MiniHeader.ofBytes (message.written ++ rest) =
      { id := message.id, size := message.packetSize } := by
  rw [h.written_eq, List.append_assoc, List.append_assoc]
  exact ofBytes_headerBytes
    { id := message.id, size := message.packetSize } _

theorem Fits.headFrame (h : message.Fits) (rest : List UInt8) :
    headFrame (message.written ++ rest) = message.frame := by
  have hbody : ((message.written ++ rest).drop 4).take
      (message.packetSize.toNat - 4) = message.body := by
    rw [h.written_eq, ← List.append_assoc, List.append_assoc,
      ← h.body_length]
    exact block_append (by simp) rfl
  rw [Log.headFrame, h.header rest]
  simp only [frame, hbody]

theorem exactReading_written {messages : List LogMessage}
    (h : forall message, message ∈ messages -> message.Fits) :
    exactReading (messages.flatMap written) =
        { frames := messages.map frame, awaited := 0, unread := [] } ∧
      ¬AnnouncesTooLittle (messages.flatMap written) := by
  induction messages with
  | nil =>
      refine ⟨exactReading_short (Nat.zero_lt_succ 3), ?_⟩
      intro htoo
      cases htoo with
      | here havail hsmall => cases havail
      | later hlarge hcomplete hrest => cases hlarge
  | cons message messages ih =>
      have hfits := h message List.mem_cons_self
      rcases ih fun other hmem => h other (List.mem_cons_of_mem _ hmem) with
        ⟨hreading, hnone⟩
      have hheader := hfits.header (messages.flatMap written)
      have hdrop : (message.written ++ messages.flatMap written).drop
          message.packetSize.toNat = messages.flatMap written := by
        rw [← hfits.written_length]
        exact List.drop_left
      rw [List.flatMap_cons]
      constructor
      · rw [exactReading_complete, hheader, hfits.headFrame, hdrop, hreading]
        · rfl
        · rw [hheader]
          exact hfits.packetSize_large
        · rw [hheader, List.length_append, hfits.written_length]
          exact Nat.le_add_right _ _
      · intro htoo
        cases htoo with
        | here havail hsmall =>
            rw [hheader] at hsmall
            have hle := UInt16.le_iff_toNat_le.mp hsmall
            have hlt := UInt16.lt_iff_toNat_lt.mp hfits.packetSize_large
            exact Nat.not_lt_of_le hle hlt
        | later hlarge hcomplete hrest =>
            rw [hheader, hdrop] at hrest
            exact hnone hrest

end LogMessage

/-!
## What is decoded
-/

theorem toInt16_toInt (n : UInt16) :
    n.toInt16.toInt =
      if n.toNat < 32768 then (n.toNat : Int) else n.toNat - 65536 := by
  change n.toBitVec.toInt = _
  rw [BitVec.toInt_eq_toNat_cond]
  change (if 2 * n.toNat < 65536 then (n.toNat : Int)
    else (n.toNat : Int) - 65536) = _
  by_cases hsmall : n.toNat < 32768
  · rw [if_pos hsmall, if_pos (by lia)]
  · rw [if_neg hsmall, if_neg (by lia)]

/-- The handler is given a message and whatever follows it in the buffer. -/
structure Received (m : Message) (message : LogMessage) : Prop where
  header : MiniHeader.ofBytes m =
    { id := message.id, size := message.packetSize }
  content : exists header rest, m = header ++ (message.body ++ rest) ∧
    header.length = 4

theorem received_of_frame {m : Message} {message : LogMessage}
    (hfits : message.Fits) (h : m.frame = message.frame) :
    Received m message := by
  have hid : (MiniHeader.ofBytes m).id = message.id := congrArg Frame.id h
  have hsize : (MiniHeader.ofBytes m).size = message.packetSize :=
    congrArg Frame.size h
  have hbody : (m.drop 4).take ((MiniHeader.ofBytes m).size.toNat - 4) =
      message.body := congrArg Frame.body h
  refine ⟨?_, m.take 4, (m.drop 4).drop message.body.length, ?_, ?_⟩
  · rw [← hid, ← hsize]
  · rw [hsize, ← hfits.body_length] at hbody
    have hsplit := List.take_append_drop message.body.length (m.drop 4)
    rw [hbody] at hsplit
    rw [hsplit, List.take_append_drop]
  · have hlarge : 4 < message.packetSize.toNat :=
      UInt16.lt_iff_toNat_lt.mp hfits.packetSize_large
    have hlength := congrArg List.length hbody
    rw [hfits.body_length, hsize, List.length_take, List.length_drop]
      at hlength
    rw [List.length_take]
    lia

namespace Received

variable {m : Message} {message : LogMessage}

theorem threadId (h : Received m message) :
    UInt32.ofNat (m.field 5 4) = message.threadId := by
  rcases h.content with ⟨header, rest, hm, hheader⟩
  have hblock : block m 5 4 = leBytes 4 message.threadId.toNat := by
    rw [hm, LogMessage.body, LogMessage.fixedPart]
    simp only [List.append_assoc]
    rw [← List.append_assoc header]
    apply block_append
    · rw [List.length_append, hheader]
      rfl
    · exact leBytes_length 4 _
  rw [Message.field, hblock,
    leNat_leBytes_of_lt (show _ < 256 ^ 4 from message.threadId.toNat_lt),
    UInt32.ofNat_toNat]

theorem number (h : Received m message) {i : Nat} (hi : i < 11) :
    (UInt64.ofNat (m.field (9 + 8 * i) 8)).toInt64 = message.n[i] := by
  rcases h.content with ⟨header, rest, hm, hheader⟩
  have hwidth : forall n : Int64,
      (leBytes 8 n.toUInt64.toNat).length = 8 := fun n => leBytes_length 8 _
  have hlength := length_flatMap_width hwidth message.n.toList
  have hi' : i < message.n.toList.length := by
    rw [Vector.length_toList]
    exact hi
  have hblock : block m (9 + 8 * i) 8 =
      leBytes 8 (message.n.toList[i]).toUInt64.toNat := by
    rw [← block_flatMap hwidth hi', hm, LogMessage.body,
      LogMessage.fixedPart]
    simp only [List.append_assoc]
    rw [← List.append_assoc header, ← List.append_assoc (header ++ _)]
    have hbefore : (header ++ [message.type] ++
        leBytes 4 message.threadId.toNat).length = 9 := by
      rw [List.length_append, List.length_append, hheader, leBytes_length]
      rfl
    rw [← hbefore, block_append_right, block_append_left]
    rw [hlength, Vector.length_toList]
    lia
  rw [Message.field, hblock,
    leNat_leBytes_of_lt
      (show _ < 256 ^ 8 from (message.n.toList[i]).toUInt64.toNat_lt),
    UInt64.ofNat_toNat]
  rfl

theorem numbers (h : Received m message) :
    (Vector.ofFn fun i : Fin 11 =>
      (UInt64.ofNat (m.field (9 + 8 * i) 8)).toInt64) = message.n := by
  apply Vector.ext
  intro i hi
  rw [Vector.getElem_ofFn]
  exact h.number hi

theorem len_of_split {before after : List UInt8} {str : CharString}
    {i : Nat}
    (hm : m = before ++ (leBytes 2 (LogMessage.lenOf str).toNat ++ after))
    (hbefore : before.length = 97 + 2 * i) (hfits : str.length ≤ 65535) :
    m.len i =
      if str.length < 32768 then (str.length : Int)
      else str.length - 65536 := by
  have hblock : block m (97 + 2 * i) 2 =
      leBytes 2 (LogMessage.lenOf str).toNat := by
    rw [hm]
    exact block_append hbefore (leBytes_length 2 _)
  rw [Message.len, Message.field, hblock,
    leNat_leBytes_of_lt
      (show _ < 256 ^ 2 from (LogMessage.lenOf str).toNat_lt),
    UInt16.ofNat_toNat, toInt16_toInt, LogMessage.lenOf_toNat hfits]

theorem split (h : Received m message) :
    exists before rest,
      m = before ++
        (leBytes 2 (LogMessage.lenOf message.str1).toNat ++
        (leBytes 2 (LogMessage.lenOf message.str2).toNat ++
        (leBytes 2 (LogMessage.lenOf message.str3).toNat ++
        (leBytes 2 (LogMessage.lenOf message.str4).toNat ++
        (message.str1 ++ (message.str2 ++ (message.str3 ++
          (message.str4 ++ rest)))))))) ∧
      before.length = 97 := by
  rcases h.content with ⟨header, rest, hm, hheader⟩
  refine ⟨header ++ ([message.type] ++
    (leBytes 4 message.threadId.toNat ++
      message.n.toList.flatMap fun n => leBytes 8 n.toUInt64.toNat)), rest,
    ?_, ?_⟩
  · rw [hm, LogMessage.body, LogMessage.fixedPart]
    simp only [List.append_assoc]
  · have hn := length_flatMap_width
      (f := fun n : Int64 => leBytes 8 n.toUInt64.toNat)
      (fun n => leBytes_length 8 _) message.n.toList
    simp only [List.length_append, List.length_singleton, leBytes_length, hn,
      Vector.length_toList, hheader]

/-- A length as the handler reads it. -/
def signedLength (str : CharString) : Int :=
  if str.length < 32768 then (str.length : Int) else str.length - 65536

theorem lens (h : Received m message) (hfits : message.Fits) :
    m.len 0 = signedLength message.str1 ∧
      m.len 1 = signedLength message.str2 ∧
      m.len 2 = signedLength message.str3 ∧
      m.len 3 = signedLength message.str4 := by
  rcases h.split with ⟨before, rest, hm, hbefore⟩
  unfold LogMessage.Fits at hfits
  refine ⟨?_, ?_, ?_, ?_⟩
  · exact len_of_split hm hbefore (by lia)
  · rw [← List.append_assoc] at hm
    apply len_of_split hm _ (by lia)
    rw [List.length_append, hbefore, leBytes_length]
  · rw [← List.append_assoc, ← List.append_assoc] at hm
    apply len_of_split hm _ (by lia)
    rw [List.length_append, List.length_append, hbefore, leBytes_length,
      leBytes_length]
  · rw [← List.append_assoc, ← List.append_assoc, ← List.append_assoc] at hm
    apply len_of_split hm _ (by lia)
    rw [List.length_append, List.length_append, List.length_append, hbefore,
      leBytes_length, leBytes_length, leBytes_length]

theorem not_refused (h : Received m message) (hfits : message.Fits) :
    ¬m.expectedSize > (MiniHeader.ofBytes m).size.toNat := by
  rcases h.lens hfits with ⟨h1, h2, h3, h4⟩
  have hle : forall str : CharString, signedLength str ≤ str.length := by
    intro str
    rw [signedLength]
    split
    · exact Int.le_refl _
    · lia
  have hle1 := hle message.str1
  have hle2 := hle message.str2
  have hle3 := hle message.str3
  have hle4 := hle message.str4
  rw [Message.expectedSize, h1, h2, h3, h4, h.header]
  change ¬_ > (message.packetSize.toNat : Int)
  rw [hfits.packetSize_toNat]
  lia

theorem stringAt_of_long (outside : Int -> UInt8) (p : Int)
    {str : CharString} (hlong : 32768 ≤ str.length)
    (hfits : str.length ≤ 65535) :
    m.stringAt outside p (signedLength str) = [] := by
  have hneg : (signedLength str).toNat = 0 := by
    rw [signedLength, if_neg (Nat.not_lt_of_le hlong)]
    lia
  rw [Message.stringAt, hneg]
  rfl

theorem stringAt_of_short (outside : Int -> UInt8)
    {before after : List UInt8} {str : CharString}
    (hm : m = before ++ (str ++ after)) (hshort : str.length < 32768)
    (hterminated : 0 ∉ str) :
    m.stringAt outside before.length (signedLength str) = str := by
  have hlength : (signedLength str).toNat = str.length := by
    rw [signedLength, if_pos hshort]
    rfl
  have hread : ((List.range str.length).map fun k : Nat =>
      m.memoryAt outside ((before.length : Int) + k)) = str := by
    apply List.ext_getElem
    · rw [List.length_map, List.length_range]
    · intro k hk hk'
      rw [List.getElem_map, List.getElem_range, Message.memoryAt,
        if_pos (by lia)]
      have hindex : ((before.length : Int) + k).toNat = before.length + k := by
        lia
      rw [hindex, hm, List.getElem?_append_right (Nat.le_add_right _ _),
        Nat.add_sub_cancel_left, List.getElem?_append_left hk',
        List.getElem?_eq_getElem hk']
      rfl
  rw [Message.stringAt, hlength, hread]
  apply List.takeWhile_eq_self_iff.mpr
  intro c hc
  apply decide_eq_true
  intro heq
  subst heq
  exact hterminated hc

end Received

/-- Strings that end at their terminator. -/
structure LogMessage.Terminated (message : LogMessage) : Prop where
  str1 : 0 ∉ message.str1
  str2 : 0 ∉ message.str2
  str3 : 0 ∉ message.str3
  str4 : 0 ∉ message.str4

namespace Received

variable {m : Message} {message : LogMessage}

theorem split_strings (h : Received m message) :
    exists before rest,
      m = before ++ (message.str1 ++ (message.str2 ++ (message.str3 ++
        (message.str4 ++ rest)))) ∧
      before.length = fixedSize := by
  rcases h.split with ⟨before, rest, hm, hbefore⟩
  refine ⟨before ++ (leBytes 2 (LogMessage.lenOf message.str1).toNat ++
    (leBytes 2 (LogMessage.lenOf message.str2).toNat ++
      (leBytes 2 (LogMessage.lenOf message.str3).toNat ++
        leBytes 2 (LogMessage.lenOf message.str4).toNat))), rest, ?_, ?_⟩
  · rw [hm]
    simp only [List.append_assoc]
  · simp only [List.length_append, leBytes_length, hbefore]
    rfl

theorem strings_of_short (h : Received m message)
    (hshort : message.Short) (hterminated : message.Terminated)
    (outside : Int -> UInt8) :
    m.stringAt outside fixedSize (signedLength message.str1) =
        message.str1 ∧
      m.stringAt outside (fixedSize + message.str1.length)
        (signedLength message.str2) = message.str2 ∧
      m.stringAt outside (fixedSize + message.str1.length +
        message.str2.length) (signedLength message.str3) = message.str3 ∧
      m.stringAt outside (fixedSize + message.str1.length +
        message.str2.length + message.str3.length)
          (signedLength message.str4) = message.str4 := by
  rcases h.split_strings with ⟨before, rest, hm, hbefore⟩
  have hat : forall {front back : List UInt8} {str : CharString} {p : Int},
      m = front ++ (str ++ back) -> p = front.length ->
      str.length < 32768 -> 0 ∉ str ->
      m.stringAt outside p (signedLength str) = str := by
    intro front back str p hsplit hp hlength hzero
    rw [hp]
    exact stringAt_of_short outside hsplit hlength hzero
  refine ⟨?_, ?_, ?_, ?_⟩
  · exact hat hm (by rw [hbefore]) hshort.str1 hterminated.str1
  · rw [← List.append_assoc] at hm
    apply hat hm _ hshort.str2 hterminated.str2
    rw [List.length_append, hbefore]
    exact (Int.natCast_add _ _).symm
  · rw [← List.append_assoc, ← List.append_assoc] at hm
    apply hat hm _ hshort.str3 hterminated.str3
    rw [List.length_append, List.length_append, hbefore]
    lia
  · rw [← List.append_assoc, ← List.append_assoc, ← List.append_assoc] at hm
    apply hat hm _ hshort.str4 hterminated.str4
    rw [List.length_append, List.length_append, List.length_append, hbefore]
    lia

theorem decode_of_short (h : Received m message) (hfits : message.Fits)
    (hshort : message.Short) (hterminated : message.Terminated)
    (outside : Int -> UInt8) :
    m.decode outside = some message.data := by
  rcases h.lens hfits with ⟨h1, h2, h3, h4⟩
  rcases h.strings_of_short hshort hterminated outside with
    ⟨hs1, hs2, hs3, hs4⟩
  have hl1 : signedLength message.str1 = message.str1.length :=
    if_pos hshort.str1
  have hl2 : signedLength message.str2 = message.str2.length :=
    if_pos hshort.str2
  have hl3 : signedLength message.str3 = message.str3.length :=
    if_pos hshort.str3
  rw [← hl1] at hs2
  rw [← hl1, ← hl2] at hs3
  rw [← hl1, ← hl2, ← hl3] at hs4
  rw [Message.decode, if_neg (h.not_refused hfits)]
  simp only [h1, h2, h3, h4, hs1, hs2, hs3, hs4, h.threadId, h.numbers,
    h.header]
  rfl

theorem decode_of_long (h : Received m message) (hfits : message.Fits)
    (outside : Int -> UInt8) :
    exists data, m.decode outside = some data ∧
      (data = message.data -> message.Short) := by
  rcases h.lens hfits with ⟨h1, h2, h3, h4⟩
  refine ⟨_, if_neg (h.not_refused hfits), ?_⟩
  intro heq
  have hshort : forall {p : Int} {str : CharString}, str.length ≤ 65535 ->
      m.stringAt outside p (signedLength str) = str ->
      str.length < 32768 := by
    intro p str hle hread
    apply Nat.lt_of_not_le
    intro hlong
    rw [stringAt_of_long outside p hlong hle] at hread
    rw [← hread] at hlong
    cases hlong
  have hs1 := congrArg LogData.s1 heq
  have hs2 := congrArg LogData.s2 heq
  have hs3 := congrArg LogData.s3 heq
  have hs4 := congrArg LogData.s4 heq
  simp only [h1, h2, h3, h4] at hs1 hs2 hs3 hs4
  unfold LogMessage.Fits at hfits
  exact ⟨hshort (by lia) hs1, hshort (by lia) hs2, hshort (by lia) hs3,
    hshort (by lia) hs4⟩

end Received

/-!
## Calls and what arrives of them
-/

/-- What is logged of messages, each with some memory around it. -/
def decodeAll (outside : Nat -> Int -> UInt8) (received : List Message) :
    List LogData :=
  received.zipIdx.filterMap fun entry =>
    entry.1.decode (outside entry.2)

theorem decode_frames {messages : List LogMessage}
    (hfits : forall message, message ∈ messages -> message.Fits)
    (hterminated : forall message, message ∈ messages ->
      message.Terminated)
    (outside : Nat -> Int -> UInt8) {received : List Message} {first : Nat}
    (hframes : received.map Message.frame =
      messages.map LogMessage.frame) :
    ((received.zipIdx first).filterMap fun entry =>
        entry.1.decode (outside entry.2)) = messages.map LogMessage.data ↔
      forall message, message ∈ messages -> message.Short := by
  induction messages generalizing received first with
  | nil =>
      have hempty := List.map_eq_nil_iff.mp hframes
      subst hempty
      constructor
      · intro _ message hmem
        exact absurd hmem List.not_mem_nil
      · intro _
        rfl
  | cons message messages ih =>
      rcases List.map_eq_cons_iff.mp hframes with
        ⟨m, later, hreceived, hframe, hlater⟩
      subst hreceived
      have hfit := hfits message List.mem_cons_self
      have harrived := received_of_frame hfit hframe
      have hrest :
          ((later.zipIdx (first + 1)).filterMap fun entry =>
              entry.1.decode (outside entry.2)) = messages.map LogMessage.data ↔
            forall other, other ∈ messages -> other.Short :=
        ih (fun other hmem => hfits other (List.mem_cons_of_mem _ hmem))
          (fun other hmem => hterminated other (List.mem_cons_of_mem _ hmem))
          hlater
      rcases harrived.decode_of_long hfit (outside first) with
        ⟨data, hdecode, hexact⟩
      rw [List.zipIdx_cons, List.filterMap_cons, List.map_cons]
      simp only [hdecode]
      constructor
      · intro heq
        rcases List.cons.inj heq with ⟨hdata, htail⟩
        intro other hmem
        rcases List.mem_cons.mp hmem with hsame | hin
        · rw [hsame]
          exact hexact hdata
        · exact hrest.mp htail other hin
      · intro hshort
        have hown := harrived.decode_of_short hfit
          (hshort message List.mem_cons_self)
          (hterminated message List.mem_cons_self) (outside first)
        rw [hdecode] at hown
        cases hown
        rw [hrest.mpr fun other hmem =>
          hshort other (List.mem_cons_of_mem _ hmem)]

theorem LogCall.terminated (call : LogCall) (pid : UInt32) :
    (call.message pid).Terminated where
  str1 := call.str1.assigned_terminated
  str2 := call.str2.assigned_terminated
  str3 := call.str3.assigned_terminated
  str4 := call.str4.assigned_terminated

def logged (garbage : Nat -> UInt8) (outside : Nat -> Int -> UInt8)
    (streamType : StreamType) (chunks : List (List UInt8)) : List LogData :=
  decodeAll outside
    ((Receiver.start garbage streamType).receiveAll garbage chunks).2

theorem dispatched_frames (garbage : Nat -> UInt8)
    (streamType : StreamType) {messages : List LogMessage}
    (hfits : forall message, message ∈ messages -> message.Fits)
    {chunks : List (List UInt8)}
    (hchunks : chunks.flatten = messages.flatMap LogMessage.written) :
    ((Receiver.start garbage streamType).receiveAll garbage chunks).2.map
      Message.frame = messages.map LogMessage.frame := by
  rcases LogMessage.exactReading_written hfits with ⟨hreading, hnone⟩
  have hexact := Framing.reading_exact
    (f := { recvBuffer := chunks.flatten
            currentMessage := { id := 0, size := 0 } }) rfl
    (hchunks ▸ hnone)
  rw [← Receiver.reading_eq garbage streamType chunks, hchunks, hreading]
    at hexact
  exact congrArg Reading.frames hexact

theorem logged_eq_iff (garbage : Nat -> UInt8)
    (outside : Nat -> Int -> UInt8) (streamType : StreamType)
    {messages : List LogMessage}
    (hfits : forall message, message ∈ messages -> message.Fits)
    (hterminated : forall message, message ∈ messages ->
      message.Terminated) {chunks : List (List UInt8)}
    (hchunks : chunks.flatten = messages.flatMap LogMessage.written) :
    logged garbage outside streamType chunks =
        messages.map LogMessage.data ↔
      forall message, message ∈ messages -> message.Short :=
  decode_frames hfits hterminated outside
    (dispatched_frames garbage streamType hfits hchunks)

/-- The data of a call, which its message is to carry to the log server. -/
def LogCall.data (call : LogCall) (pid : UInt32) : LogData :=
  (call.message pid).data

theorem logged_sendLogs_iff (garbage : Nat -> UInt8)
    (outside : Nat -> Int -> UInt8) (streamType : StreamType)
    (pendingMessages : List LogMessage) (pid : UInt32)
    {calls : List LogCall}
    (hfits : forall call, call ∈ calls -> (call.message pid).Fits)
    {chunks : List (List UInt8)}
    (hchunks : chunks.flatten =
      ((LogServerClient.connected pendingMessages).sendLogs pid calls).2) :
    logged garbage outside streamType chunks =
        calls.map (fun call => call.data pid) ↔
      forall call, call ∈ calls -> (call.message pid).Short := by
  have hmessages : forall {holds : LogMessage -> Prop},
      (forall message,
        message ∈ calls.map (fun call => call.message pid) ->
          holds message) ↔
      forall call, call ∈ calls -> holds (call.message pid) := by
    intro holds
    exact List.forall_mem_map
  have hwritten : chunks.flatten =
      (calls.map fun call => call.message pid).flatMap
        LogMessage.written := by
    rw [hchunks, LogServerClient.sendLogs_connected, List.flatMap_map]
  have hiff := logged_eq_iff garbage outside streamType
    (hmessages.mpr hfits)
    (hmessages.mpr fun call _ => call.terminated pid) hwritten
  rw [List.map_map, hmessages] at hiff
  exact hiff

/--
The messages of a sequence of calls are logged with the same data in the same
order, whatever chunks they arrive in, exactly if no string has 32768
characters or more.
-/
theorem logged_calls_iff (garbage : Nat -> UInt8)
    (outside : Nat -> Int -> UInt8) (streamType : StreamType)
    (pendingMessages : List LogMessage) (pid : UInt32)
    (calls : List LogCall)
    (hfits : forall call, call ∈ calls -> (call.message pid).Fits)
    (chunks : List (List UInt8))
    (hchunks : chunks.flatten =
      ((LogServerClient.connected pendingMessages).sendLogs pid calls).2) :
    logged garbage outside streamType chunks =
        calls.map (fun call => call.data pid) ↔
      forall call, call ∈ calls -> (call.message pid).Short :=
  logged_sendLogs_iff garbage outside streamType pendingMessages pid hfits
    hchunks

def callWith (str4 : CharString) (h : 0 ∉ str4) : LogCall where
  id := 102
  n := Vector.replicate 11 0
  str1 := StringArgument.whole [] List.not_mem_nil
  str2 := StringArgument.whole [] List.not_mem_nil
  str3 := StringArgument.whole [] List.not_mem_nil
  str4 := StringArgument.whole str4 h

theorem fits_callWith {str4 : CharString} (h : 0 ∉ str4)
    (hlength : str4.length ≤ 65430) (pid : UInt32) :
    ((callWith str4 h).message pid).Fits := by
  change fixedSize + 0 + 0 + 0 + str4.length ≤ 65535
  have hfixed : fixedSize = 105 := rfl
  lia

theorem logged_calls_iff_letter :
    logged (fun _ => 0) (fun _ _ => 0) StreamType.socket
        [((LogServerClient.connected []).sendLogs 1
          [callWith [65] (by decide)]).2] =
        [(callWith [65] (by decide)).data 1] ↔
      forall call, call ∈ [callWith [65] (by decide)] ->
        (call.message 1).Short := by
  apply logged_calls_iff (fun _ => 0) (fun _ _ => 0) StreamType.socket [] 1
    [callWith [65] (by decide)]
  · intro call hmem
    rw [List.mem_singleton.mp hmem]
    exact fits_callWith (by decide) (by decide) 1
  · exact List.flatten_singleton

/-- A string of 32768 characters arrives as an empty one. -/
theorem not_logged_long_string :
    ¬forall (garbage : Nat -> UInt8) (outside : Nat -> Int -> UInt8)
      (streamType : StreamType) (pendingMessages : List LogMessage)
      (pid : UInt32) (calls : List LogCall),
      (forall call, call ∈ calls -> (call.message pid).Fits) ->
      forall chunks : List (List UInt8),
        chunks.flatten =
          ((LogServerClient.connected pendingMessages).sendLogs pid
            calls).2 ->
        logged garbage outside streamType chunks =
          calls.map fun call => call.data pid := by
  intro h
  have hzero : (0 : UInt8) ∉ List.replicate 32768 65 := by
    intro hmem
    have heq := List.eq_of_mem_replicate hmem
    revert heq
    decide
  have hlength : (List.replicate 32768 (65 : UInt8)).length = 32768 :=
    List.length_replicate
  have hfits : forall call, call ∈ [callWith _ hzero] ->
      (call.message 1).Fits := by
    intro call hmem
    rw [List.mem_singleton.mp hmem]
    exact fits_callWith hzero (by rw [hlength]; decide) 1
  have hlogged := h (fun _ => 0) (fun _ _ => 0) StreamType.socket [] 1 _ hfits
    [_] List.flatten_singleton
  have hshort := (logged_sendLogs_iff _ _ _ _ _ hfits
    List.flatten_singleton).mp hlogged _ List.mem_cons_self
  have hlast := hshort.str4
  change (List.replicate 32768 (65 : UInt8)).length < 32768 at hlast
  rw [hlength] at hlast
  exact Nat.lt_irrefl _ hlast

end Log
end Rzu
