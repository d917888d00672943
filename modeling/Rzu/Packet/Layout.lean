import Rzu.Packet.Declaration

/-!
# Layout of a packet

The bytes of each field of a packet, as a function of the value only, and the
proof that the announced size and the serialization both follow it.
-/

namespace Rzu
namespace Packet

open Library

/-!
## Buffers with room
-/

namespace MessageBuffer

/-- Nothing overflowed so far, and so many bytes more would fit. -/
structure Room (b : MessageBuffer) (n : Nat) : Prop where
  clean : b.bufferOverflow = false
  fits : b.p + n ≤ b.getSize

variable {b : MessageBuffer} {m n : Nat}

theorem getSize_le (b : MessageBuffer) : b.getSize ≤ b.buffer.length :=
  Nat.mod_le _ _

theorem getSize_lt (b : MessageBuffer) : b.getSize < 2 ^ 32 :=
  Nat.mod_lt _ (by decide)

theorem Room.mono (h : b.Room n) (hle : m ≤ n) : b.Room m where
  clean := h.clean
  fits := by
    have hfits := h.fits
    lia

theorem Room.inside (h : b.Room n) : b.p + n ≤ b.buffer.length :=
  Nat.le_trans h.fits b.getSize_le

theorem Room.getParsedSize (h : b.Room n) : b.getParsedSize = b.p := by
  have hfits := h.fits
  have hlt := b.getSize_lt
  apply Nat.mod_eq_of_lt
  lia

theorem checkAvailableBuffer_room (h : b.Room n) (hsmall : n < 65536)
    (fieldName : String) :
    b.checkAvailableBuffer fieldName n = (true, b) := by
  rw [checkAvailableBuffer, h.clean, if_neg Bool.false_ne_true,
    if_pos ⟨hsmall, h.fits⟩]

@[simp] theorem store_p (bytes : List UInt8) :
    (b.store bytes).p = b.p + bytes.length := rfl

theorem store_buffer_length {bytes : List UInt8}
    (h : b.p + bytes.length ≤ b.buffer.length) :
    (b.store bytes).buffer.length = b.buffer.length := by
  rw [store, List.length_append, List.length_append, List.length_take,
    List.length_drop]
  lia

theorem store_nil (b : MessageBuffer) : b.store [] = b := by
  cases b
  simp [store]

theorem store_store {xs ys : List UInt8}
    (h : b.p + xs.length ≤ b.buffer.length) :
    (b.store xs).store ys = b.store (xs ++ ys) := by
  have htake : (b.buffer.take b.p).length = b.p := by
    rw [List.length_take]
    lia
  have hfront : (b.buffer.take b.p ++ xs).length = b.p + xs.length := by
    rw [List.length_append, htake]
  simp only [store]
  congr 1
  · have hback : (b.buffer.take b.p ++ xs ++
        b.buffer.drop (b.p + xs.length)).drop (b.p + xs.length + ys.length) =
          b.buffer.drop (b.p + (xs ++ ys).length) := by
      rw [← List.drop_drop, List.drop_left' hfront, List.drop_drop,
        List.length_append, Nat.add_assoc]
    rw [List.take_left' hfront, hback, List.append_assoc _ xs ys]
  · rw [List.length_append, Nat.add_assoc]

theorem Room.store {bytes : List UInt8} (h : b.Room (bytes.length + n)) :
    (b.store bytes).Room n where
  clean := h.clean
  fits := by
    have hfits := h.fits
    have hinside := (h.mono (Nat.le_add_right bytes.length n)).inside
    rw [store_p, getSize, store_buffer_length hinside, ← getSize]
    lia

theorem put_room {bytes : List UInt8} (h : b.Room bytes.length)
    (hsmall : bytes.length < 65536) (fieldName : String) :
    b.put fieldName bytes = b.store bytes := by
  rw [put, checkAvailableBuffer_room h hsmall]

end MessageBuffer

/-!
## Layout of a field
-/

theorem flatMap_encode_length (T : IntType) (val : List Int) :
    (val.flatMap T.encode).length = T.size * val.length := by
  induction val with
  | nil => rfl
  | cons first rest ih =>
      rw [List.flatMap_cons, List.length_append, ih, IntType.encode_length,
        List.length_cons]
      lia

theorem array_encode_length (T : IntType) (val : Nat -> Int) (n : Nat) :
    ((List.range n).flatMap fun i => T.encode (val i)).length =
      T.size * n := by
  have hmap := flatMap_encode_length T ((List.range n).map val)
  rw [List.flatMap_map, List.length_map, List.length_range] at hmap
  exact hmap

namespace Metatype

/-- The bytes of a field that starts at an offset in its struct. -/
def layout (name : String) (r : Record) (l : Locals) (offset : Nat) :
    Metatype -> Option (Locals × List UInt8)
  | simple type _ _ => some (l, type.encode (r.integer name))
  | array type _ n _ =>
      some (l, (List.range n).flatMap fun i => type.encode (r.array name i))
  | dynarray type _ =>
      if l.size name ≤ (r.vector name).length then
        some (l, ((r.vector name).take (l.size name)).flatMap type.encode)
      else none
  | count type ref _ =>
      let n := getClampedCount type (ref.size r name)
      some (l.setSize name n, type.encode n)
  | string n _ =>
      if n = 0 ∧ r.string name ≠ [] then none
      else
        some (l, (r.string name).take (n - 1) ++
          List.replicate (n - min (r.string name).length (n - 1)) 0)
  | dynstring _ _ =>
      if l.size name ≤ (r.string name).length + 1 then
        some (l, (r.string name ++ [0]).take (l.size name))
      else none
  | padmarker => some (l.setMarker name offset, [])
  | pad n => (l.marker name).map fun marker =>
      (l, List.replicate (marker + n r - offset) 0)
  | endstring hasNullTerminator _ =>
      some (l, r.string name ++ List.replicate hasNullTerminator.toNat 0)
  | endarray type _ => some (l, (r.vector name).flatMap type.encode)

theorem string_layout_length {val : CharString} {n : Nat}
    (h : ¬(n = 0 ∧ val ≠ [])) :
    (val.take (n - 1) ++
      List.replicate (n - min val.length (n - 1)) (0 : UInt8)).length = n := by
  rw [List.length_append, List.length_take, List.length_replicate]
  cases n with
  | zero =>
      have hnil : val = [] := by
        by_contra hne
        exact h ⟨rfl, hne⟩
      simp [hnil]
  | succ n => lia

variable {name : String} {r : Record} {l l' : Locals} {offset : Nat}
variable {bytes : List UInt8}

theorem addSize_layout {metatype : Metatype}
    (h : metatype.layout name r l offset = some (l', bytes))
    (hroom : offset + bytes.length < 2 ^ 32) :
    metatype.addSize name r l offset =
      some (l', offset + bytes.length) := by
  cases metatype with
  | simple type member defaultval =>
      cases h
      rw [IntType.encode_length] at hroom ⊢
      rw [addSize, add32, Nat.mod_eq_of_lt hroom]
  | array type member n defaultval =>
      cases h
      rw [array_encode_length] at hroom ⊢
      rw [addSize, add32, Nat.mod_eq_of_lt hroom]
  | dynarray type member =>
      rw [layout] at h
      split at h
      · rename_i hle
        cases h
        rw [flatMap_encode_length, List.length_take_of_le hle] at hroom ⊢
        rw [addSize, if_pos hle, add32, Nat.mod_eq_of_lt hroom]
      · cases h
  | count type ref defaultval =>
      cases h
      rw [IntType.encode_length] at hroom ⊢
      rw [addSize, add32, Nat.mod_eq_of_lt hroom]
  | string n defaultval =>
      rw [layout] at h
      split at h
      · cases h
      · rename_i hfits
        cases h
        rw [string_layout_length hfits] at hroom ⊢
        rw [addSize, add32, Nat.mod_eq_of_lt hroom]
  | dynstring hasNullTerminator defaultval =>
      rw [layout] at h
      split at h
      · rename_i hle
        cases h
        rw [List.length_take_of_le (by simpa using hle)] at hroom ⊢
        rw [addSize, add32, Nat.mod_eq_of_lt hroom]
      · cases h
  | padmarker =>
      cases h
      rfl
  | pad n =>
      rcases Option.map_eq_some_iff.mp h with ⟨marker, hmarker, hpair⟩
      cases hpair
      rw [List.length_replicate] at hroom ⊢
      have htarget : add32 marker (n r) = marker + n r :=
        Nat.mod_eq_of_lt (by lia)
      simp only [addSize, hmarker, Option.bind_eq_bind, Option.bind_some,
        Option.pure_def, htarget]
      split
      · congr 2
        lia
      · congr 2
        lia
  | endstring hasNullTerminator defaultval =>
      cases h
      rw [List.length_append, List.length_replicate] at hroom ⊢
      rw [addSize, add32, Nat.mod_eq_of_lt hroom]
  | endarray type member =>
      cases h
      rw [flatMap_encode_length] at hroom ⊢
      rw [addSize, add32, Nat.mod_eq_of_lt hroom]

end Metatype

/-- The local variables of a struct that does not start at offset zero. -/
def Locals.shift (n : Nat) (l : Locals) : Locals :=
  { l with marker := fun name => (l.marker name).map (· + n) }

namespace Locals

@[simp] theorem shift_size (n : Nat) (l : Locals) :
    (l.shift n).size = l.size := rfl

@[simp] theorem shift_setSize (n : Nat) (l : Locals) (ref : String)
    (val : Nat) : (l.shift n).setSize ref val = (l.setSize ref val).shift n :=
  rfl

theorem shift_setMarker (n : Nat) (l : Locals) (marker : String)
    (val : Nat) :
    (l.shift n).setMarker marker (val + n) =
      (l.setMarker marker val).shift n := by
  simp only [setMarker, shift]
  congr 1
  funext name
  by_cases heq : name = marker
  · subst heq
    simp
  · simp [Function.update_of_ne heq]

end Locals

namespace Metatype

variable {name : String} {r : Record} {l l' : Locals} {offset : Nat}
variable {bytes : List UInt8}

theorem skip_shift (metatype : Metatype) (name : String) (l : Locals)
    (n : Nat) :
    metatype.skip name (l.shift n) = (metatype.skip name l).shift n := by
  unfold skip
  split
  · rfl
  · rfl

theorem writeDynArray_room {b : MessageBuffer} {T : IntType}
    {val : List Int} {count : Nat} (hcount : count ≤ val.length)
    (hroom : b.Room (T.size * count)) (hsmall : T.size * count < 65536)
    (fieldName : String) :
    b.writeDynArray T fieldName val count =
      some (b.store ((val.take count).flatMap T.encode)) := by
  rw [MessageBuffer.writeDynArray]
  split
  · rename_i hzero
    have hlength := flatMap_encode_length T (val.take count)
    rw [List.length_take_of_le hcount, hzero] at hlength
    rw [List.length_eq_zero_iff.mp hlength, MessageBuffer.store_nil]
  · rw [MessageBuffer.checkAvailableBuffer_room hroom hsmall]

theorem writeDynString_room {b : MessageBuffer} {val : CharString}
    {count : Nat} (hcount : count ≤ val.length + 1)
    (hroom : b.Room count) (hsmall : count < 65536) (fieldName : String) :
    b.writeDynString fieldName val count =
      some (b.store ((val ++ [0]).take count)) := by
  rw [MessageBuffer.writeDynString,
    MessageBuffer.checkAvailableBuffer_room hroom hsmall]
  exact if_pos hcount

theorem write_layout {metatype : Metatype} {b : MessageBuffer} {start : Nat}
    (h : metatype.layout name r l offset = some (l', bytes))
    (hroom : b.Room bytes.length) (hsmall : bytes.length < 65536)
    (hp : b.p = offset + start) :
    metatype.write name r (l.shift start) b =
      some (l'.shift start, b.store bytes) := by
  cases metatype with
  | simple type member defaultval =>
      cases h
      rw [write, MessageBuffer.write, MessageBuffer.put_room hroom hsmall]
  | array type member n defaultval =>
      cases h
      rw [write, MessageBuffer.writeArray,
        MessageBuffer.put_room hroom hsmall]
  | dynarray type member =>
      rw [layout] at h
      split at h
      · rename_i hle
        cases h
        have hlength :
            (((r.vector name).take (l.size name)).flatMap
              type.encode).length = type.size * l.size name := by
          rw [flatMap_encode_length, List.length_take_of_le hle]
        rw [hlength] at hroom hsmall
        rw [write, Locals.shift_size,
          writeDynArray_room hle hroom hsmall, Option.map_some]
      · cases h
  | count type ref defaultval =>
      cases h
      rw [write, MessageBuffer.writeSize, MessageBuffer.write,
        MessageBuffer.put_room hroom hsmall, Locals.shift_setSize]
  | string n defaultval =>
      rw [layout] at h
      split at h
      · cases h
      · rename_i hfits
        cases h
        rw [string_layout_length hfits] at hroom hsmall
        rw [write, MessageBuffer.writeString,
          MessageBuffer.checkAvailableBuffer_room hroom hsmall]
        simp only [if_neg hfits, Option.map_some]
  | dynstring hasNullTerminator defaultval =>
      rw [layout] at h
      split at h
      · rename_i hle
        cases h
        have hlength : ((r.string name ++ [0]).take (l.size name)).length =
            l.size name := List.length_take_of_le (by simpa using hle)
        rw [hlength] at hroom hsmall
        rw [write, Locals.shift_size, writeDynString_room hle hroom hsmall,
          Option.map_some]
      · cases h
  | padmarker =>
      cases h
      rw [write, hroom.getParsedSize, hp, Locals.shift_setMarker,
        MessageBuffer.store_nil]
  | pad n =>
      rcases Option.map_eq_some_iff.mp h with ⟨marker, hmarker, hpair⟩
      cases hpair
      rw [List.length_replicate] at hroom hsmall
      have hfits := hroom.fits
      have hlt := b.getSize_lt
      have htarget : add32 (marker + start) (n r) = marker + start + n r :=
        Nat.mod_eq_of_lt (by lia)
      simp only [write, Locals.shift, hmarker, Option.map_some,
        Option.bind_eq_bind, Option.bind_some, Option.pure_def, htarget,
        hroom.getParsedSize]
      split
      · have hlength : marker + start + n r - b.p =
            marker + n r - offset := by lia
        rw [hlength, MessageBuffer.pad]
        have hreplicate := List.length_replicate
          (n := marker + n r - offset) (a := (0 : UInt8))
        rw [MessageBuffer.put_room (by rwa [hreplicate])
          (by rwa [hreplicate])]
      · have hzero : marker + n r - offset = 0 := by lia
        rw [hzero, List.replicate_zero, MessageBuffer.store_nil]
  | endstring hasNullTerminator defaultval =>
      cases h
      have hnul := Bool.toNat_le hasNullTerminator
      rw [List.length_append, List.length_replicate] at hroom hsmall
      have hcount : add32 (r.string name).length hasNullTerminator.toNat =
          (r.string name).length + hasNullTerminator.toNat :=
        Nat.mod_eq_of_lt (by lia)
      rw [write, hcount, writeDynString_room (by lia) hroom hsmall,
        Option.map_some]
      cases hasNullTerminator with
      | false => simp
      | true =>
          rw [Bool.toNat_true, List.take_of_length_le (by simp)]
          rfl
  | endarray type member =>
      cases h
      rw [flatMap_encode_length] at hroom hsmall
      have hpos := type.positive
      have hle := Nat.le_mul_of_pos_left (r.vector name).length hpos
      have hcount : (r.vector name).length % 2 ^ 32 =
          (r.vector name).length := Nat.mod_eq_of_lt (by lia)
      rw [write, hcount, writeDynArray_room (Nat.le_refl _) hroom hsmall,
        List.take_length, Option.map_some]

end Metatype

/-!
## Layout of a struct
-/

namespace Struct

/-- The bytes of the fields of a struct, field by field. -/
def layout (version : Version) :
    Struct -> Record -> Locals -> Nat -> Option (List (List UInt8))
  | nil, _, _, _ => some []
  | field name cond metatype rest, r, l, offset =>
      if cond version r then do
        let line <- metatype.layout name r l offset
        let later <- rest.layout version r line.1 (offset + line.2.length)
        pure (line.2 :: later)
      else rest.layout version r (metatype.skip name l) offset
  | object name cond shape type rest, r, l, offset =>
      if cond version r then do
        let elements <- shape.elements name r l
        let objects <- elements.mapM fun item =>
          type.layout version item Locals.initial 0
        let later <- rest.layout version r l
          (offset + objects.flatten.flatten.length)
        pure (objects.flatten ++ later)
      else rest.layout version r l offset

variable {version : Version} {r : Record} {l : Locals} {offset : Nat}
variable {chunks : List (List UInt8)}

theorem foldlM_size (sizeOf : Record -> Option Nat)
    {layoutOf : Record -> Option (List (List UInt8))}
    (hitem : forall item chunks, layoutOf item = some chunks ->
      chunks.flatten.length < 2 ^ 32 ->
        sizeOf item = some chunks.flatten.length)
    {elements : List Record} {objects : List (List (List UInt8))}
    (h : elements.mapM layoutOf = some objects) (size : Nat)
    (hroom : size + objects.flatten.flatten.length < 2 ^ 32) :
    elements.foldlM (fun size item => (sizeOf item).map (add32 size)) size =
      some (size + objects.flatten.flatten.length) := by
  induction elements generalizing objects size with
  | nil =>
      cases h
      rfl
  | cons item items ih =>
      rw [List.mapM_cons] at h
      rcases Option.bind_eq_some_iff.mp h with ⟨first, hfirst, hrest⟩
      rcases Option.bind_eq_some_iff.mp hrest with ⟨later, hlater, hpair⟩
      cases hpair
      rw [List.flatten_cons, List.flatten_append, List.length_append]
        at hroom ⊢
      have hsize := hitem item first hfirst (by lia)
      have hsum : add32 size first.flatten.length =
          size + first.flatten.length := Nat.mod_eq_of_lt (by lia)
      rw [List.foldlM_cons, hsize, Option.map_some, hsum,
        Option.bind_eq_bind, Option.bind_some, ih hlater _ (by lia),
        Nat.add_assoc]

theorem addSize_layout {type : Struct}
    (h : type.layout version r l offset = some chunks)
    (hroom : offset + chunks.flatten.length < 2 ^ 32) :
    type.addSize version r l offset =
      some (offset + chunks.flatten.length) := by
  induction type generalizing r l offset chunks with
  | nil =>
      cases h
      rfl
  | field name cond metatype rest ih =>
      rw [layout] at h
      rw [addSize]
      split at h
      · rename_i hactive
        rw [if_pos hactive]
        rcases Option.bind_eq_some_iff.mp h with ⟨line, hline, hrest⟩
        rcases Option.bind_eq_some_iff.mp hrest with ⟨later, hlater, hpair⟩
        cases hpair
        rw [List.flatten_cons, List.length_append] at hroom ⊢
        rw [Metatype.addSize_layout hline (by lia), Option.bind_eq_bind,
          Option.bind_some, ih hlater (by lia), Nat.add_assoc]
      · rename_i hinactive
        rw [if_neg hinactive]
        exact ih h hroom
  | object name cond shape type rest ihtype ihrest =>
      rw [layout] at h
      rw [addSize]
      split at h
      · rename_i hactive
        rw [if_pos hactive]
        rcases Option.bind_eq_some_iff.mp h with ⟨elements, helements, hrest⟩
        rcases Option.bind_eq_some_iff.mp hrest with
          ⟨objects, hobjects, hrest⟩
        rcases Option.bind_eq_some_iff.mp hrest with ⟨later, hlater, hpair⟩
        cases hpair
        rw [List.flatten_append, List.length_append] at hroom ⊢
        have hsizes := foldlM_size
          (fun item => type.addSize version item Locals.initial 0)
          (fun item chunks hitem hsmall => by
            have hsize := ihtype hitem (by lia)
            rw [Nat.zero_add] at hsize
            exact hsize)
          hobjects offset (by lia)
        simp only [helements, hsizes, Option.bind_eq_bind, Option.bind_some]
        rw [ihrest hlater (by lia), Nat.add_assoc]
      · rename_i hinactive
        rw [if_neg hinactive]
        exact ihrest h hroom

/-- Every field is short enough for a single check. -/
def Short (chunks : List (List UInt8)) : Prop :=
  forall chunk, chunk ∈ chunks -> chunk.length < 65536

theorem foldlM_write (writeItem : MessageBuffer -> Record ->
      Option MessageBuffer)
    {layoutOf : Record -> Option (List (List UInt8))}
    (hitem : forall b item chunks, layoutOf item = some chunks ->
      Short chunks -> b.Room chunks.flatten.length ->
        writeItem b item = some (b.store chunks.flatten))
    {elements : List Record} {objects : List (List (List UInt8))}
    (h : elements.mapM layoutOf = some objects)
    (hshort : Short objects.flatten) {b : MessageBuffer}
    (hroom : b.Room objects.flatten.flatten.length) :
    elements.foldlM writeItem b =
      some (b.store objects.flatten.flatten) := by
  induction elements generalizing objects b with
  | nil =>
      cases h
      exact congrArg some (MessageBuffer.store_nil b).symm
  | cons item items ih =>
      rw [List.mapM_cons] at h
      rcases Option.bind_eq_some_iff.mp h with ⟨first, hfirst, hrest⟩
      rcases Option.bind_eq_some_iff.mp hrest with ⟨later, hlater, hpair⟩
      cases hpair
      rw [List.flatten_cons] at hshort
      rw [List.flatten_cons, List.flatten_append] at hroom ⊢
      rw [List.length_append] at hroom
      have hfront := hroom.mono (Nat.le_add_right _ _)
      rw [List.foldlM_cons,
        hitem b item first hfirst
          (fun chunk hchunk => hshort chunk (List.mem_append_left _ hchunk))
          hfront,
        Option.bind_eq_bind, Option.bind_some,
        ih hlater
          (fun chunk hchunk => hshort chunk (List.mem_append_right _ hchunk))
          hroom.store,
        MessageBuffer.store_store hfront.inside]

theorem write_layout {type : Struct} {b : MessageBuffer} {start : Nat}
    (h : type.layout version r l offset = some chunks)
    (hshort : Short chunks) (hroom : b.Room chunks.flatten.length)
    (hp : b.p = offset + start) :
    type.write version r (l.shift start) b =
      some (b.store chunks.flatten) := by
  induction type generalizing r l offset chunks b start with
  | nil =>
      cases h
      exact congrArg some (MessageBuffer.store_nil b).symm
  | field name cond metatype rest ih =>
      rw [layout] at h
      rw [write]
      split at h
      · rename_i hactive
        rw [if_pos hactive]
        rcases Option.bind_eq_some_iff.mp h with ⟨line, hline, hrest⟩
        rcases Option.bind_eq_some_iff.mp hrest with ⟨later, hlater, hpair⟩
        cases hpair
        rw [List.flatten_cons] at hroom ⊢
        rw [List.length_append] at hroom
        have hfront := hroom.mono (Nat.le_add_right _ _)
        have hline' := Metatype.write_layout hline hfront
          (hshort _ List.mem_cons_self) hp
        rw [hline', Option.bind_eq_bind, Option.bind_some,
          ih hlater
            (fun chunk hchunk => hshort chunk (List.mem_cons_of_mem _ hchunk))
            hroom.store (by rw [MessageBuffer.store_p]; lia),
          MessageBuffer.store_store hfront.inside]
      · rename_i hinactive
        rw [if_neg hinactive, Metatype.skip_shift]
        exact ih h hshort hroom hp
  | object name cond shape type rest ihtype ihrest =>
      rw [layout] at h
      rw [write]
      split at h
      · rename_i hactive
        rw [if_pos hactive]
        rcases Option.bind_eq_some_iff.mp h with ⟨elements, helements, hrest⟩
        rcases Option.bind_eq_some_iff.mp hrest with
          ⟨objects, hobjects, hrest⟩
        rcases Option.bind_eq_some_iff.mp hrest with ⟨later, hlater, hpair⟩
        cases hpair
        rw [List.flatten_append] at hroom ⊢
        rw [List.length_append] at hroom
        have hfront := hroom.mono (Nat.le_add_right _ _)
        have hshift : shape.elements name r (l.shift start) =
            some elements := by
          rw [← helements]
          cases shape with
          | simple | array | dynarray | endarray => rfl
        have hwrites := foldlM_write
          (fun b item => type.write version item Locals.initial b)
          (fun b item chunks hitem hsmall hfits => by
            have hwrite : type.write version item
                (Locals.initial.shift b.p) b =
                  some (b.store chunks.flatten) :=
              ihtype hitem hsmall hfits (Nat.zero_add b.p).symm
            exact hwrite)
          hobjects
          (fun chunk hchunk => hshort chunk (List.mem_append_left _ hchunk))
          hfront
        simp only [hshift, hwrites, Option.bind_eq_bind, Option.bind_some]
        rw [ihrest hlater
            (fun chunk hchunk =>
              hshort chunk (List.mem_append_right _ hchunk))
            hroom.store (by rw [MessageBuffer.store_p]; lia),
          MessageBuffer.store_store hfront.inside]
      · rename_i hinactive
        rw [if_neg hinactive]
        exact ihrest h hshort hroom hp

end Struct

/-!
## Layout of a packet
-/

/-- The seven bytes in front of the fields. -/
def header (size id : Nat) : List UInt8 :=
  uint32.encode size ++ uint16.encode id ++
    uint8.encode (MessageBuffer.getMessageChecksum size id)

@[simp] theorem header_length (size id : Nat) :
    (header size id).length = 7 := by
  simp [header, uint32, uint16, uint8]

theorem writeHeader_room {b : MessageBuffer} (h : b.Room 7)
    (size id : Nat) : b.writeHeader size id = b.store (header size id) := by
  have hsize : (uint32.encode size).length = 4 := IntType.encode_length _ _
  have hid : (uint16.encode id).length = 2 := IntType.encode_length _ _
  have hsum (n : Nat) : (uint8.encode n).length = 1 :=
    IntType.encode_length _ _
  have hroom : b.Room ((uint32.encode size).length +
      ((uint16.encode id).length + 1)) := by
    rw [hsize, hid]
    exact h
  have hfront := hroom.mono (Nat.le_add_right _ _)
  have hback := hroom.store.mono (Nat.le_add_right _ _)
  simp only [MessageBuffer.writeHeader, MessageBuffer.write]
  rw [MessageBuffer.put_room hfront (by rw [hsize]; decide),
    MessageBuffer.put_room hback (by rw [hid]; decide),
    MessageBuffer.put_room (by rw [hsum]; exact hroom.store.store)
      (by rw [hsum]; decide),
    MessageBuffer.store_store hfront.inside]
  have hinside : b.p + (uint32.encode size ++ uint16.encode id).length ≤
      b.buffer.length := by
    have htotal := hroom.inside
    rw [List.length_append]
    lia
  rw [MessageBuffer.store_store hinside, header]

namespace PacketType

def layout (packet : PacketType) (version : Version) (r : Record) :
    Option (List (List UInt8)) :=
  packet.fields.layout version r Locals.initial 7

variable {packet : PacketType} {version : Version} {r : Record}
variable {chunks : List (List UInt8)}

theorem getSize_layout (h : packet.layout version r = some chunks)
    (hroom : 7 + chunks.flatten.length < 2 ^ 32) :
    packet.getSize version r = some (7 + chunks.flatten.length) :=
  Struct.addSize_layout h hroom

def bytes (packet : PacketType) (version : Version)
    (chunks : List (List UInt8)) : List UInt8 :=
  header (7 + chunks.flatten.length) (packet.getId version).toNat ++
    chunks.flatten

@[simp] theorem bytes_length (packet : PacketType) (version : Version)
    (chunks : List (List UInt8)) :
    (packet.bytes version chunks).length = 7 + chunks.flatten.length := by
  rw [bytes, List.length_append, header_length]

theorem serialize_layout (h : packet.layout version r = some chunks)
    (hshort : Struct.Short chunks) {b : MessageBuffer} (hstart : b.p = 0)
    (hroom : b.Room (7 + chunks.flatten.length)) :
    packet.serialize version r b =
      some (b.store (packet.bytes version chunks)) := by
  have hlt := b.getSize_lt
  have hfits := hroom.fits
  have hsize := getSize_layout h (by lia)
  have hheader := hroom.mono (Nat.le_add_right 7 _)
  let head := header (7 + chunks.flatten.length) (packet.getId version).toNat
  have hhead : head.length = 7 := header_length _ _
  have hrest : (b.store head).Room chunks.flatten.length := by
    apply MessageBuffer.Room.store
    rw [hhead]
    exact hroom
  have hwrite : packet.fields.write version r (Locals.initial.shift 0)
      (b.store head) = some ((b.store head).store chunks.flatten) :=
    Struct.write_layout h hshort hrest (by
      rw [MessageBuffer.store_p, hhead, hstart])
  rw [serialize, hsize, Option.bind_eq_bind, Option.bind_some,
    writeHeader_room hheader, Struct.serialize]
  rw [MessageBuffer.store_store (by rw [hhead]; exact hheader.inside)]
    at hwrite
  exact hwrite

theorem store_create {memory bytes : List UInt8}
    (h : bytes.length = memory.length) :
    (MessageBuffer.create memory).store bytes =
      { buffer := bytes
        p := bytes.length
        bufferOverflow := false
        fieldInOverflow := "" } := by
  simp [MessageBuffer.store, MessageBuffer.create, h]

theorem msgSize_bytes (hroom : 7 + chunks.flatten.length < 2 ^ 32) :
    leNat ((packet.bytes version chunks).take 4) =
      7 + chunks.flatten.length := by
  have hfour : (uint32.encode
      ((7 + chunks.flatten.length : Nat) : Int)).length = 4 :=
    IntType.encode_length _ _
  rw [bytes, header, List.append_assoc, List.append_assoc,
    List.take_left' hfour]
  have hcast := uint32.leNat_encode ((7 + chunks.flatten.length : Nat) : Int)
  have hmodulus : uint32.modulus = 2 ^ 32 := by decide
  rw [hmodulus] at hcast
  lia

theorem sendPacket_layout (h : packet.layout version r = some chunks)
    (hshort : Struct.Short chunks)
    (hroom : 7 + chunks.flatten.length < 2 ^ 32) (garbage : Nat -> UInt8) :
    packet.sendPacket version r garbage =
      some (SendResult.written (packet.bytes version chunks)) := by
  let memory := (List.range (7 + chunks.flatten.length)).map garbage
  have hmemory : memory.length = 7 + chunks.flatten.length := by
    simp [memory]
  have hfits : (MessageBuffer.create memory).Room
      (7 + chunks.flatten.length) :=
    ⟨rfl, by
      rw [MessageBuffer.getSize]
      change 0 + _ ≤ memory.length % 2 ^ 32
      rw [hmemory, Nat.mod_eq_of_lt hroom, Nat.zero_add]⟩
  have hwritten := serialize_layout h hshort rfl hfits
  rw [store_create ((bytes_length packet version chunks).trans hmemory.symm)]
    at hwritten
  have hfinal : MessageBuffer.checkPacketFinalSize
      { buffer := packet.bytes version chunks
        p := (packet.bytes version chunks).length
        bufferOverflow := false
        fieldInOverflow := "" } = true := by
    simp only [MessageBuffer.checkPacketFinalSize, MessageBuffer.msgSize,
      MessageBuffer.getSize, MessageBuffer.getParsedSize, msgSize_bytes hroom,
      bytes_length, Nat.mod_eq_of_lt hroom, Bool.not_false, beq_self_eq_true,
      Bool.and_self]
  rw [sendPacket, getSize_layout h hroom, Option.bind_eq_bind,
    Option.bind_some, hwritten, Option.bind_eq_bind, Option.bind_some,
    if_pos hfinal]
  rfl

end PacketType

end Packet
end Rzu
