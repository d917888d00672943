import Rzu.Packet.RoundTrip

/-!
# Writing only appends

What stands before the cursor is not written again, so that the bytes of every
packet that is sent begin with its header.
-/

namespace Rzu
namespace Packet

open Library

namespace MessageBuffer

/-- What stood before the cursor stays, and so does an overflow. -/
structure Extends (b after : MessageBuffer) : Prop where
  length : after.buffer.length = b.buffer.length
  cursor : b.p ≤ after.p
  inside : b.p ≤ b.buffer.length -> after.p ≤ after.buffer.length
  before : b.p ≤ b.buffer.length ->
    after.buffer.take b.p = b.buffer.take b.p
  overflow : b.bufferOverflow = true -> after.bufferOverflow = true

namespace Extends

variable {b mid after : MessageBuffer}

theorem refl (b : MessageBuffer) : b.Extends b :=
  ⟨rfl, Nat.le_refl _, id, fun _ => rfl, id⟩

theorem trans (h : b.Extends mid) (h' : mid.Extends after) :
    b.Extends after where
  length := h'.length.trans h.length
  cursor := Nat.le_trans h.cursor h'.cursor
  inside hle := h'.inside (h.inside hle)
  before hle := by
    have hkept := congrArg (List.take b.p) (h'.before (h.inside hle))
    rw [List.take_take, List.take_take, Nat.min_eq_left h.cursor] at hkept
    exact hkept.trans (h.before hle)
  overflow hover := h'.overflow (h.overflow hover)

end Extends

variable {b : MessageBuffer}

theorem store_extends {bytes : List UInt8}
    (h : b.p + bytes.length ≤ b.buffer.length) :
    b.Extends (b.store bytes) where
  length := store_buffer_length h
  cursor := Nat.le_add_right _ _
  inside _ := by
    rw [store_buffer_length h]
    exact h
  before hle := by
    have htake : (b.buffer.take b.p).length = b.p :=
      List.length_take_of_le hle
    rw [store, List.append_assoc, List.take_left' htake]
  overflow := id

theorem checkAvailableBuffer_cases (b : MessageBuffer) (fieldName : String)
    (size : Nat) :
    (b.checkAvailableBuffer fieldName size = (true, b) ∧
      b.p + size ≤ b.buffer.length) ∨
    exists after, b.checkAvailableBuffer fieldName size = (false, after) ∧
      b.Extends after := by
  unfold checkAvailableBuffer
  split
  · exact Or.inr ⟨b, rfl, Extends.refl b⟩
  · split
    · rename_i hroom
      exact Or.inl ⟨rfl, Nat.le_trans hroom.right b.getSize_le⟩
    · exact Or.inr ⟨_, rfl,
        ⟨rfl, Nat.le_refl _, id, fun _ => rfl, fun _ => rfl⟩⟩

theorem put_extends (b : MessageBuffer) (fieldName : String)
    (bytes : List UInt8) : b.Extends (b.put fieldName bytes) := by
  rw [put]
  rcases b.checkAvailableBuffer_cases fieldName bytes.length with
    ⟨hcheck, hroom⟩ | ⟨after, hcheck, hextends⟩
  · rw [hcheck]
    exact store_extends hroom
  · rw [hcheck]
    exact hextends

theorem put_clean {fieldName : String} {bytes : List UInt8}
    (h : (b.put fieldName bytes).bufferOverflow = false) :
    b.put fieldName bytes = b.store bytes ∧ b.bufferOverflow = false ∧
      b.p + bytes.length ≤ b.getSize := by
  rw [put, checkAvailableBuffer] at h ⊢
  by_cases hover : b.bufferOverflow = true
  · rw [if_pos hover] at h
    rw [hover] at h
    cases h
  · have hclean := Bool.eq_false_iff.mpr hover
    rw [if_neg hover] at h ⊢
    by_cases hroom : bytes.length < 65536 ∧
        b.p + bytes.length ≤ b.getSize
    · rw [if_pos hroom]
      exact ⟨rfl, hclean, hroom.right⟩
    · rw [if_neg hroom] at h
      cases h

theorem writeDynArray_extends {T : IntType} {fieldName : String}
    {val : List Int} {count : Nat} {after : MessageBuffer}
    (h : b.writeDynArray T fieldName val count = some after) :
    b.Extends after := by
  unfold writeDynArray at h
  split at h
  · cases h
    exact Extends.refl b
  · rcases b.checkAvailableBuffer_cases fieldName (T.size * count) with
      ⟨hcheck, hroom⟩ | ⟨full, hcheck, hextends⟩
    · simp only [hcheck] at h
      split at h
      · rename_i hcount
        cases h
        apply store_extends
        rw [flatMap_encode_length, List.length_take_of_le hcount]
        exact hroom
      · cases h
    · simp only [hcheck] at h
      cases h
      exact hextends

theorem writeString_extends {fieldName : String} {val : CharString}
    {maxSize : Nat} {after : MessageBuffer}
    (h : b.writeString fieldName val maxSize = some after) :
    b.Extends after := by
  unfold writeString at h
  rcases b.checkAvailableBuffer_cases fieldName maxSize with
    ⟨hcheck, hroom⟩ | ⟨full, hcheck, hextends⟩
  · simp only [hcheck] at h
    split at h
    · cases h
    · rename_i hnonempty
      cases h
      apply store_extends
      rw [List.length_append, List.length_take, List.length_replicate]
      by_cases hzero : maxSize = 0
      · have hval : val = [] := by
          by_contra hne
          exact hnonempty ⟨hzero, hne⟩
        subst hval
        simpa [hzero] using hroom
      · lia
  · simp only [hcheck] at h
    cases h
    exact hextends

theorem writeDynString_extends {fieldName : String} {val : CharString}
    {count : Nat} {after : MessageBuffer}
    (h : b.writeDynString fieldName val count = some after) :
    b.Extends after := by
  unfold writeDynString at h
  rcases b.checkAvailableBuffer_cases fieldName count with
    ⟨hcheck, hroom⟩ | ⟨full, hcheck, hextends⟩
  · simp only [hcheck] at h
    split at h
    · rename_i hcount
      cases h
      apply store_extends
      rw [List.length_take, List.length_append, List.length_singleton,
        Nat.min_eq_left hcount]
      exact hroom
    · cases h
  · simp only [hcheck] at h
    cases h
    exact hextends

end MessageBuffer

theorem Metatype.write_extends {metatype : Metatype} {name : String}
    {r : Record} {l after : Locals} {b written : MessageBuffer}
    (h : metatype.write name r l b = some (after, written)) :
    b.Extends written := by
  cases metatype with
  | simple type member defaultval =>
      cases h
      exact b.put_extends _ _
  | array type member n defaultval =>
      cases h
      exact b.put_extends _ _
  | dynarray type member =>
      rcases Option.map_eq_some_iff.mp h with ⟨b', hwrite, heq⟩
      cases heq
      exact MessageBuffer.writeDynArray_extends hwrite
  | count type ref defaultval =>
      cases h
      exact b.put_extends _ _
  | string n defaultval =>
      rcases Option.map_eq_some_iff.mp h with ⟨b', hwrite, heq⟩
      cases heq
      exact MessageBuffer.writeString_extends hwrite
  | dynstring hasNullTerminator defaultval =>
      rcases Option.map_eq_some_iff.mp h with ⟨b', hwrite, heq⟩
      cases heq
      exact MessageBuffer.writeDynString_extends hwrite
  | padmarker =>
      cases h
      exact MessageBuffer.Extends.refl b
  | pad n =>
      rcases Option.bind_eq_some_iff.mp h with ⟨marker, -, hpad⟩
      split at hpad
      · cases hpad
        exact b.put_extends _ _
      · cases hpad
        exact MessageBuffer.Extends.refl b
  | endstring hasNullTerminator defaultval =>
      rcases Option.map_eq_some_iff.mp h with ⟨b', hwrite, heq⟩
      cases heq
      exact MessageBuffer.writeDynString_extends hwrite
  | endarray type member =>
      rcases Option.map_eq_some_iff.mp h with ⟨b', hwrite, heq⟩
      cases heq
      exact MessageBuffer.writeDynArray_extends hwrite

theorem foldlM_extends
    {writeOf : MessageBuffer -> Record -> Option MessageBuffer}
    {elements : List Record}
    (hwrite : forall item b after, writeOf b item = some after ->
      b.Extends after) {b after : MessageBuffer}
    (h : elements.foldlM writeOf b = some after) : b.Extends after := by
  induction elements generalizing b with
  | nil =>
      cases h
      exact MessageBuffer.Extends.refl _
  | cons item items ih =>
      rw [List.foldlM_cons] at h
      rcases Option.bind_eq_some_iff.mp h with ⟨mid, hfirst, hrest⟩
      exact (hwrite item b mid hfirst).trans (ih hrest)

theorem Struct.write_extends {version : Version} {type : Struct}
    {r : Record} {l : Locals} {b after : MessageBuffer}
    (h : type.write version r l b = some after) : b.Extends after := by
  induction type generalizing r l b after with
  | nil =>
      cases h
      exact MessageBuffer.Extends.refl b
  | field name cond metatype rest ih =>
      rw [Struct.write] at h
      split at h
      · rcases Option.bind_eq_some_iff.mp h with ⟨written, hfield, hrest⟩
        exact (Metatype.write_extends hfield).trans (ih hrest)
      · exact ih h
  | object name cond shape type rest ihtype ihrest =>
      rw [Struct.write] at h
      split at h
      · rcases Option.bind_eq_some_iff.mp h with ⟨elements, -, hbody⟩
        rcases Option.bind_eq_some_iff.mp hbody with ⟨mid, hitems, hrest⟩
        exact (foldlM_extends
          (fun _ _ _ hitem => ihtype hitem) hitems).trans (ihrest hrest)
      · exact ihrest h

namespace MessageBuffer

variable {b : MessageBuffer} {size id : Nat}

theorem writeHeader_extends (b : MessageBuffer) (size id : Nat) :
    b.Extends (b.writeHeader size id) :=
  ((b.put_extends _ _).trans (put_extends _ _ _)).trans (put_extends _ _ _)

theorem writeHeader_clean
    (h : (b.writeHeader size id).bufferOverflow = false) : b.Room 7 := by
  have hsize : (uint32.encode size).length = 4 := IntType.encode_length _ _
  have hid : (uint16.encode id).length = 2 := IntType.encode_length _ _
  have hsum : (uint8.encode (getMessageChecksum size id)).length = 1 :=
    IntType.encode_length _ _
  rcases put_clean h with ⟨-, hsecond, hroom⟩
  rcases put_clean hsecond with ⟨hput, hfirst, -⟩
  rcases put_clean hfirst with ⟨hput', hclean, -⟩
  have hlength := ((b.put_extends "size" (uint32.encode size)).trans
    (put_extends _ "id" (uint16.encode id))).length
  constructor
  · exact hclean
  · unfold write at hroom
    unfold write at hput
    rw [getSize, hlength, hput, hput', store_p, store_p, hsize, hid,
      hsum] at hroom
    rw [getSize]
    lia

end MessageBuffer

/-- The identifier in the bytes of a packet, whatever its fields are. -/
theorem PacketType.sent_id {packet : PacketType} {version : Version}
    {r : Record} {garbage : Nat -> UInt8} {bytes : List UInt8}
    (h : packet.sendPacket version r garbage =
      some (SendResult.written bytes)) :
    leNat ((bytes.drop 4).take 2) = (packet.getId version).toNat := by
  rcases Option.bind_eq_some_iff.mp h with ⟨size, hsize, hbody⟩
  rcases Option.bind_eq_some_iff.mp hbody with ⟨after, hwritten, hfinal⟩
  rw [serialize, hsize] at hwritten
  let b := MessageBuffer.create ((List.range size).map garbage)
  let id := (packet.getId version).toNat
  change Struct.write version packet.fields r Locals.initial
    (b.writeHeader size id) = some after at hwritten
  have hextends := Struct.write_extends hwritten
  split at hfinal
  · rename_i hcheck
    cases hfinal
    have hclean : after.bufferOverflow = false := by
      rw [MessageBuffer.checkPacketFinalSize, Bool.and_eq_true,
        Bool.and_eq_true, Bool.not_eq_true'] at hcheck
      exact hcheck.left.left
    have hwhole : (b.writeHeader size id).bufferOverflow = false := by
      rw [← Bool.not_eq_true]
      intro hover
      rw [hextends.overflow hover] at hclean
      cases hclean
    have hroom : b.Room 7 := MessageBuffer.writeHeader_clean hwhole
    have hheader := writeHeader_room hroom size id
    have hp : (b.writeHeader size id).p = 7 := by
      rw [hheader, MessageBuffer.store_p, header_length]
      rfl
    have hfront : after.buffer.take 7 = header size id := by
      have hlength := (b.writeHeader_extends size id).length
      have hfits := hroom.inside
      have hkept := hextends.before (by rw [hp, hlength]; exact hfits)
      rw [hp, hheader] at hkept
      rw [hkept]
      change (b.buffer.take 0 ++ header size id ++ _).take 7 = _
      rw [List.take_zero, List.nil_append]
      exact List.take_left' (header_length size id)
    rw [← List.take_append_drop 7 after.buffer, hfront]
    exact header_id size (packet.getId version) _
  · cases hfinal

end Packet
end Rzu
