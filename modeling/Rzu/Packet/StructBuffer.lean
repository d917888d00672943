import Rzu.Packet.Hostile
import Rzu.Packet.RoundTrip

/-!
# A struct in a buffer of its own

A struct without the header of a packet: written to new memory, read back, and
what becomes of it if the memory is too small.
-/

namespace Rzu
namespace Packet

open Library

namespace MessageBuffer

/-- Nothing has been left out. -/
def checkFinalSize (b : MessageBuffer) : Bool := !b.bufferOverflow

/-- A field of a size does not fit any more. -/
def Full (b : MessageBuffer) (size : Nat) : Prop :=
  b.bufferOverflow = true ∨ (b.Inside ∧ b.getSize < b.p + size)

variable {b b' : MessageBuffer} {m n : Nat}

theorem checkAvailableBuffer_overflow (h : b.bufferOverflow = true)
    (fieldName : String) (size : Nat) :
    b.checkAvailableBuffer fieldName size = (false, b) := by
  rw [checkAvailableBuffer, if_pos h]

theorem checkAvailableBuffer_full (h : b.Full n) (fieldName : String) :
    exists b', b.checkAvailableBuffer fieldName n = (false, b') ∧
      b'.bufferOverflow = true := by
  rw [checkAvailableBuffer]
  split
  · rename_i hoverflow
    exact ⟨b, rfl, hoverflow⟩
  · rcases h with hoverflow | ⟨-, hfull⟩
    · contradiction
    · rw [if_neg fun hboth => Nat.not_le_of_lt hfull hboth.right]
      exact ⟨_, rfl, rfl⟩

theorem Full.overflow_of_zero (h : b.Full 0) : b.bufferOverflow = true := by
  rcases h with hoverflow | ⟨hinside, hfull⟩
  · exact hoverflow
  · rw [Inside] at hinside
    lia

theorem Full.split (h : b.Full (m + n)) :
    b.Full m ∨ (b.Room m ∧ forall bytes : List UInt8, bytes.length = m ->
      (b.store bytes).Full n) := by
  rcases h with hoverflow | ⟨hinside, hfull⟩
  · exact Or.inl (Or.inl hoverflow)
  · by_cases hoverflow : b.bufferOverflow = true
    · exact Or.inl (Or.inl hoverflow)
    · by_cases hfits : b.p + m ≤ b.getSize
      · have hroom : b.Room m := ⟨by simpa using hoverflow, hfits⟩
        refine Or.inr ⟨hroom, ?_⟩
        intro bytes hbytes
        subst hbytes
        have hsize : (b.store bytes).getSize = b.getSize := by
          rw [getSize, store_buffer_length hroom.inside, ← getSize]
        refine Or.inr ⟨?_, ?_⟩
        · rw [Inside, hsize, store_p]
          exact hfits
        · rw [hsize, store_p]
          lia
      · exact Or.inl (Or.inr ⟨hinside, Nat.lt_of_not_le hfits⟩)

theorem put_overflow (h : b.bufferOverflow = true) (fieldName : String)
    (bytes : List UInt8) : b.put fieldName bytes = b := by
  rw [put, checkAvailableBuffer_overflow h]

theorem put_full {bytes : List UInt8} (h : b.Full bytes.length)
    (fieldName : String) :
    (b.put fieldName bytes).bufferOverflow = true := by
  rcases checkAvailableBuffer_full h fieldName with ⟨b', hcheck, hoverflow⟩
  rw [put, hcheck]
  exact hoverflow

end MessageBuffer

/-!
## Writing to memory that is too small
-/

namespace Metatype

variable {name : String} {r : Record} {l l' : Locals} {b b' : MessageBuffer}

theorem write_overflow {metatype : Metatype}
    (h : metatype.write name r l b = some (l', b'))
    (hoverflow : b.bufferOverflow = true) : b' = b := by
  have hput := MessageBuffer.put_overflow hoverflow
  have hcheck := MessageBuffer.checkAvailableBuffer_overflow hoverflow
  cases metatype with
  | simple | array | count =>
      cases h
      exact hput _ _
  | padmarker =>
      cases h
      rfl
  | pad n =>
      rcases Option.bind_eq_some_iff.mp h with ⟨marker, -, hpad⟩
      split at hpad
      · cases hpad
        exact hput _ _
      · cases hpad
        rfl
  | string n defaultval =>
      simp only [write, MessageBuffer.writeString, hcheck,
        Option.map_some] at h
      cases h
      rfl
  | dynstring hasNullTerminator defaultval =>
      simp only [write, MessageBuffer.writeDynString, hcheck,
        Option.map_some] at h
      cases h
      rfl
  | endstring hasNullTerminator defaultval =>
      simp only [write, MessageBuffer.writeDynString, hcheck,
        Option.map_some] at h
      cases h
      rfl
  | dynarray type member =>
      simp only [write, MessageBuffer.writeDynArray, hcheck, ite_self,
        Option.map_some] at h
      cases h
      rfl
  | endarray type member =>
      simp only [write, MessageBuffer.writeDynArray, hcheck, ite_self,
        Option.map_some] at h
      cases h
      rfl

/-- The sizes of pads depend on where the struct starts. -/
def isPlain : Metatype -> Bool
  | pad _ => false
  | padmarker => false
  | _ => true

theorem writeDynArray_full {T : IntType} {val : List Int} {count : Nat}
    (h : b.Full (T.size * count)) (fieldName : String)
    (hwrite : b.writeDynArray T fieldName val count = some b') :
    b'.bufferOverflow = true := by
  rw [MessageBuffer.writeDynArray] at hwrite
  split at hwrite
  · rename_i hzero
    rw [hzero] at h
    cases hwrite
    exact h.overflow_of_zero
  · rcases MessageBuffer.checkAvailableBuffer_full h fieldName with
      ⟨after, hcheck, hoverflow⟩
    rw [hcheck] at hwrite
    cases hwrite
    exact hoverflow

theorem writeDynString_full {val : CharString} {count : Nat}
    (h : b.Full count) (fieldName : String)
    (hwrite : b.writeDynString fieldName val count = some b') :
    b'.bufferOverflow = true := by
  rcases MessageBuffer.checkAvailableBuffer_full h fieldName with
    ⟨after, hcheck, hoverflow⟩
  rw [MessageBuffer.writeDynString, hcheck] at hwrite
  cases hwrite
  exact hoverflow

theorem write_full {metatype : Metatype} {offset : Nat} {bytes : List UInt8}
    (hplain : metatype.isPlain = true)
    (hlayout : metatype.layout name r l offset = some (l', bytes))
    (hsmall : bytes.length < 65536) (hfull : b.Full bytes.length)
    {start : Nat} {l'' : Locals}
    (h : metatype.write name r (l.shift start) b = some (l'', b')) :
    b'.bufferOverflow = true := by
  cases metatype with
  | padmarker | pad => cases hplain
  | simple | array | count =>
      cases hlayout
      cases h
      exact MessageBuffer.put_full hfull _
  | dynarray type member =>
      rw [layout] at hlayout
      split at hlayout
      · rename_i hle
        cases hlayout
        rw [flatMap_encode_length, List.length_take_of_le hle] at hfull
        rcases Option.map_eq_some_iff.mp h with ⟨after, hwrite, hpair⟩
        cases hpair
        exact writeDynArray_full hfull name hwrite
      · cases hlayout
  | string n defaultval =>
      rw [layout] at hlayout
      split at hlayout
      · cases hlayout
      · rename_i hfits
        cases hlayout
        rw [string_layout_length hfits] at hfull
        rcases MessageBuffer.checkAvailableBuffer_full hfull name with
          ⟨after, hcheck, hoverflow⟩
        rw [write, MessageBuffer.writeString, hcheck] at h
        cases h
        exact hoverflow
  | dynstring hasNullTerminator defaultval =>
      rw [layout] at hlayout
      split at hlayout
      · rename_i hle
        cases hlayout
        rw [List.length_take_of_le (by simpa using hle)] at hfull
        rcases Option.map_eq_some_iff.mp h with ⟨after, hwrite, hpair⟩
        cases hpair
        exact writeDynString_full hfull name hwrite
      · cases hlayout
  | endstring hasNullTerminator defaultval =>
      cases hlayout
      have hnul := Bool.toNat_le hasNullTerminator
      rw [List.length_append, List.length_replicate] at hsmall hfull
      have hcount : add32 (r.string name).length hasNullTerminator.toNat =
          (r.string name).length + hasNullTerminator.toNat :=
        Nat.mod_eq_of_lt (by lia)
      rw [write, hcount] at h
      rcases Option.map_eq_some_iff.mp h with ⟨after, hwrite, hpair⟩
      cases hpair
      exact writeDynString_full hfull name hwrite
  | endarray type member =>
      cases hlayout
      rw [flatMap_encode_length] at hsmall hfull
      have hle := Nat.le_mul_of_pos_left (r.vector name).length type.positive
      have hcount : (r.vector name).length % 2 ^ 32 =
          (r.vector name).length := Nat.mod_eq_of_lt (by lia)
      rw [write, hcount] at h
      rcases Option.map_eq_some_iff.mp h with ⟨after, hwrite, hpair⟩
      cases hpair
      exact writeDynArray_full hfull name hwrite

end Metatype

namespace Struct

variable {version : Version} {r : Record} {l : Locals}
variable {b b' : MessageBuffer}

/-- A struct without pads. -/
def Plain : Struct -> Prop
  | nil => True
  | field _ _ metatype rest => metatype.isPlain = true ∧ rest.Plain
  | object _ _ _ type rest => type.Plain ∧ rest.Plain

theorem Plain.padsKnown {type : Struct} (h : type.Plain) (version : Version)
    (r : Record) (vectors objectVectors : List String) :
    type.PadsKnown version r vectors objectVectors := by
  induction type generalizing r vectors objectVectors with
  | nil => trivial
  | field name cond metatype rest ih =>
      rw [PadsKnown]
      split
      · refine ⟨?_, ih h.right r _ _⟩
        cases metatype with
        | pad n => cases h.left
        | simple | array | dynarray | count | string | dynstring | padmarker
        | endstring | endarray => trivial
      · exact ih h.right r _ _
  | object name cond shape type rest ihtype ihrest =>
      rw [PadsKnown]
      split
      · exact ⟨fun item _ => ihtype h.left item [] [],
          ihrest h.right r _ _⟩
      · exact ihrest h.right r _ _

theorem foldlM_overflow
    {writeItem : MessageBuffer -> Record -> Option MessageBuffer}
    (hitem : forall b item b', writeItem b item = some b' ->
      b.bufferOverflow = true -> b' = b)
    {elements : List Record} (h : elements.foldlM writeItem b = some b')
    (hoverflow : b.bufferOverflow = true) : b' = b := by
  induction elements with
  | nil =>
      cases h
      rfl
  | cons item items ih =>
      rw [List.foldlM_cons] at h
      rcases Option.bind_eq_some_iff.mp h with ⟨middle, hmiddle, hlater⟩
      rw [hitem b item middle hmiddle hoverflow] at hlater
      exact ih hlater

theorem write_overflow {type : Struct}
    (h : type.write version r l b = some b')
    (hoverflow : b.bufferOverflow = true) : b' = b := by
  induction type generalizing r l b b' with
  | nil =>
      cases h
      rfl
  | field name cond metatype rest ih =>
      rw [write] at h
      split at h
      · rcases Option.bind_eq_some_iff.mp h with ⟨⟨l', middle⟩, hline, hlater⟩
        have hsame := Metatype.write_overflow hline hoverflow
        subst hsame
        exact ih hlater hoverflow
      · exact ih h hoverflow
  | object name cond shape type rest ihtype ihrest =>
      rw [write] at h
      split at h
      · rcases Option.bind_eq_some_iff.mp h with ⟨elements, -, hafter⟩
        rcases Option.bind_eq_some_iff.mp hafter with
          ⟨middle, hobjects, hlater⟩
        have hsame := foldlM_overflow
          (fun b item b' hitem hover => ihtype hitem hover) hobjects hoverflow
        subst hsame
        exact ihrest hlater hoverflow
      · exact ihrest h hoverflow

theorem foldlM_full
    {writeItem : MessageBuffer -> Record -> Option MessageBuffer}
    {layoutOf : Record -> Option (List (List UInt8))}
    (hstored : forall b item chunks, layoutOf item = some chunks ->
      Short chunks -> b.Room chunks.flatten.length ->
        writeItem b item = some (b.store chunks.flatten))
    (hkept : forall b item b', writeItem b item = some b' ->
      b.bufferOverflow = true -> b' = b)
    (hitem : forall b item b' chunks, layoutOf item = some chunks ->
      Short chunks -> b.Full chunks.flatten.length ->
        writeItem b item = some b' -> b'.bufferOverflow = true)
    {elements : List Record} {objects : List (List (List UInt8))}
    (hlayout : elements.mapM layoutOf = some objects)
    (hshort : Short objects.flatten)
    (hfull : b.Full objects.flatten.flatten.length)
    (h : elements.foldlM writeItem b = some b') :
    b'.bufferOverflow = true := by
  induction elements generalizing objects b with
  | nil =>
      cases hlayout
      cases h
      exact hfull.overflow_of_zero
  | cons item items ih =>
      rw [List.mapM_cons] at hlayout
      rcases Option.bind_eq_some_iff.mp hlayout with ⟨first, hfirst, hrest⟩
      rcases Option.bind_eq_some_iff.mp hrest with ⟨later, hlater, hpair⟩
      cases hpair
      rw [List.flatten_cons] at hshort
      rw [List.flatten_cons, List.flatten_append, List.length_append] at hfull
      have hfront : Short first := fun chunk hchunk =>
        hshort chunk (List.mem_append_left _ hchunk)
      have hback : Short later.flatten := fun chunk hchunk =>
        hshort chunk (List.mem_append_right _ hchunk)
      rw [List.foldlM_cons] at h
      rcases Option.bind_eq_some_iff.mp h with ⟨middle, hmiddle, hafter⟩
      rcases hfull.split with hfull | ⟨hroom, hfull⟩
      · have hoverflow := hitem b item middle first hfirst hfront hfull
          hmiddle
        rw [foldlM_overflow hkept hafter hoverflow]
        exact hoverflow
      · rw [hstored b item first hfirst hfront hroom] at hmiddle
        cases hmiddle
        exact ih hlater hback (hfull _ rfl) hafter

theorem write_full {type : Struct} (hplain : type.Plain)
    {offset start : Nat} {chunks : List (List UInt8)}
    (hlayout : type.layout version r l offset = some chunks)
    (hshort : Short chunks) (hfull : b.Full chunks.flatten.length)
    (hp : b.p = offset + start)
    (h : type.write version r (l.shift start) b = some b') :
    b'.bufferOverflow = true := by
  induction type generalizing r l offset start chunks b b' with
  | nil =>
      cases hlayout
      cases h
      exact hfull.overflow_of_zero
  | field name cond metatype rest ih =>
      rw [layout] at hlayout
      rw [write] at h
      split at hlayout
      · rename_i hactive
        rw [if_pos hactive] at h
        rcases Option.bind_eq_some_iff.mp hlayout with
          ⟨line, hline, hrest⟩
        rcases Option.bind_eq_some_iff.mp hrest with ⟨later, hlater, hpair⟩
        cases hpair
        rw [List.flatten_cons, List.length_append] at hfull
        rcases Option.bind_eq_some_iff.mp h with ⟨middle, hmiddle, hafter⟩
        have hsmall := hshort _ List.mem_cons_self
        have hback : Short later := fun chunk hchunk =>
          hshort chunk (List.mem_cons_of_mem _ hchunk)
        rcases hfull.split with hfull | ⟨hroom, hfull⟩
        · have hoverflow := Metatype.write_full hplain.left hline hsmall
            hfull hmiddle
          rw [write_overflow hafter hoverflow]
          exact hoverflow
        · rw [Metatype.write_layout hline hroom hsmall hp] at hmiddle
          cases hmiddle
          refine ih hplain.right hlater hback (hfull _ rfl) ?_ hafter
          rw [MessageBuffer.store_p]
          lia
      · rename_i hinactive
        rw [if_neg hinactive, Metatype.skip_shift] at h
        exact ih hplain.right hlayout hshort hfull hp h
  | object name cond shape type rest ihtype ihrest =>
      rw [layout] at hlayout
      rw [write] at h
      split at hlayout
      · rename_i hactive
        rw [if_pos hactive] at h
        rcases Option.bind_eq_some_iff.mp hlayout with
          ⟨elements, helements, hrest⟩
        rcases Option.bind_eq_some_iff.mp hrest with
          ⟨objects, hobjects, hrest⟩
        rcases Option.bind_eq_some_iff.mp hrest with ⟨later, hlater, hpair⟩
        cases hpair
        have hshift : shape.elements name r (l.shift start) =
            some elements := by
          rw [← helements]
          cases shape with
          | simple | array | dynarray | endarray => rfl
        simp only [hshift, Option.bind_eq_bind, Option.bind_some] at h
        rcases Option.bind_eq_some_iff.mp h with ⟨middle, hmiddle, hafter⟩
        have hfront : Short objects.flatten := fun chunk hchunk =>
          hshort chunk (List.mem_append_left _ hchunk)
        have hback : Short later := fun chunk hchunk =>
          hshort chunk (List.mem_append_right _ hchunk)
        rw [List.flatten_append, List.length_append] at hfull
        have hstored : forall (b : MessageBuffer) (item : Record) chunks,
            type.layout version item Locals.initial 0 = some chunks ->
              Short chunks -> b.Room chunks.flatten.length ->
                type.write version item Locals.initial b =
                  some (b.store chunks.flatten) := by
          intro b item chunks hitem hsmall hroom
          have hwrite : type.write version item
              (Locals.initial.shift b.p) b =
                some (b.store chunks.flatten) :=
            write_layout hitem hsmall hroom (Nat.zero_add b.p).symm
          exact hwrite
        rcases hfull.split with hfull | ⟨hroom, hfull⟩
        · have hoverflow := foldlM_full hstored
            (fun b item b' hitem hover => write_overflow hitem hover)
            (fun b item b' chunks hitem hsmall hfull hwrite => by
              have hshifted : type.write version item
                  (Locals.initial.shift b.p) b = some b' := hwrite
              exact ihtype hplain.left hitem hsmall hfull
                (Nat.zero_add b.p).symm hshifted)
            hobjects hfront hfull hmiddle
          rw [write_overflow hafter hoverflow]
          exact hoverflow
        · rw [foldlM_write _ hstored hobjects hfront hroom] at hmiddle
          cases hmiddle
          refine ihrest hplain.right hlater hback (hfull _ rfl) ?_ hafter
          rw [MessageBuffer.store_p]
          lia
      · rename_i hinactive
        rw [if_neg hinactive] at h
        exact ihrest hplain.right hlayout hshort hfull hp h

/-!
## New memory
-/

variable {type : Struct} {chunks : List (List UInt8)}

theorem serialize_create
    (h : type.layout version r Locals.initial 0 = some chunks)
    (hshort : Short chunks) (htotal : chunks.flatten.length < 2 ^ 32)
    {memory : List UInt8} (hmemory : chunks.flatten.length = memory.length) :
    type.serialize version r (MessageBuffer.create memory) =
      some { buffer := chunks.flatten
             p := chunks.flatten.length
             bufferOverflow := false
             fieldInOverflow := "" } := by
  have hroom : (MessageBuffer.create memory).Room chunks.flatten.length := by
    refine ⟨rfl, ?_⟩
    change 0 + _ ≤ memory.length % 2 ^ 32
    rw [← hmemory, Nat.mod_eq_of_lt htotal, Nat.zero_add]
  have hwrite : type.write version r (Locals.initial.shift 0)
      (MessageBuffer.create memory) = _ :=
    write_layout h hshort hroom rfl
  rw [PacketType.store_create hmemory] at hwrite
  exact hwrite

theorem serialize_full (hplain : type.Plain)
    (h : type.layout version r Locals.initial 0 = some chunks)
    (hshort : Short chunks) (htotal : 2 ^ 32 ≤ chunks.flatten.length)
    {memory : List UInt8} {b : MessageBuffer}
    (hwrite : type.serialize version r (MessageBuffer.create memory) =
      some b) : b.checkFinalSize = false := by
  have hlt := (MessageBuffer.create memory).getSize_lt
  have hfull : (MessageBuffer.create memory).Full chunks.flatten.length := by
    refine Or.inr ⟨Nat.zero_le _, ?_⟩
    change _ < 0 + _
    lia
  have hwrite' : type.write version r (Locals.initial.shift 0)
      (MessageBuffer.create memory) = some b := hwrite
  rw [MessageBuffer.checkFinalSize,
    write_full hplain h hshort hfull rfl hwrite']
  rfl

theorem deserialize_create {g : Record}
    (hconditions : type.SameConditions version r g)
    (hplain : type.Plain) (hbounded : type.Bounded)
    (hcounts : type.CountsMatch [])
    (hrange : type.InRange version r)
    (h : type.layout version r Locals.initial 0 = some chunks)
    (hshort : Short chunks) (htotal : chunks.flatten.length < 2 ^ 32) :
    type.deserialize version (MessageBuffer.create chunks.flatten) g =
      some ((MessageBuffer.create chunks.flatten).advance
        chunks.flatten.length, type.overwrite version r g) := by
  have hahead : (MessageBuffer.create chunks.flatten).Ahead
      chunks.flatten := by
    refine ⟨⟨rfl, ?_⟩, [], ?_⟩
    · change 0 + _ ≤ chunks.flatten.length % 2 ^ 32
      rw [Nat.mod_eq_of_lt htotal, Nat.zero_add]
    · rw [List.append_nil]
      rfl
  have hempty : forall name, name ∈ ([] : List String) ->
      (g.vector name).length = (r.vector name).length :=
    fun name hname => nomatch hname
  have hempty' : forall name, name ∈ ([] : List String) ->
      (g.objectVector name).length = (r.objectVector name).length :=
    fun name hname => nomatch hname
  have hread : type.read version (Locals.initial.shift 0) _ g = _ :=
    read_layout hconditions hbounded hcounts (fun c hc => nomatch hc)
      (hplain.padsKnown _ _ _ _) ⟨hempty, hempty'⟩ hrange h hshort hahead
      rfl
  exact hread

end Struct

end Packet
end Rzu
