import Rzu.Packet.Layout

/-!
# Announced and written size

When a packet has a layout at all, and what becomes of a packet that has none
or whose size does not fit its header.
-/

namespace Rzu
namespace Packet

open Library

namespace Metatype

/-- The local variables after a field: the count in force, the markers. -/
def declare (name : String) (r : Record) (l : Locals) : Metatype -> Locals
  | count type ref _ =>
      l.setSize name (getClampedCount type (ref.size r name))
  | padmarker => l.setMarker name 0
  | _ => l

/-- A dynamic field holds what the count in force makes the code read. -/
def Enough (name : String) (r : Record) (l : Locals) : Metatype -> Prop
  | dynarray _ _ => l.size name ≤ (r.vector name).length
  | dynstring hasNullTerminator _ =>
      l.size name ≤ (r.string name).length + hasNullTerminator.toNat
  | _ => True

def marks (name : String) : Metatype -> List String
  | padmarker => [name]
  | _ => []

def isPad : Metatype -> Bool
  | pad _ => true
  | _ => false

/-- A fixed string has a byte for its terminator. -/
def HasRoom : Metatype -> Prop
  | string n _ => 0 < n
  | _ => True

end Metatype

namespace Shape

/-- The objects that a field holds. -/
def items (name : String) (r : Record) : Shape -> List Record
  | simple _ => [r.object name]
  | array n => (List.range n).map (r.objectArray name)
  | dynarray => r.objectVector name
  | endarray => r.objectVector name

def Enough (name : String) (r : Record) (l : Locals) : Shape -> Prop
  | dynarray => l.size name ≤ (r.objectVector name).length
  | _ => True

end Shape

namespace Struct

/--
A pad names a marker that stands before it in its struct.  Markers have no
condition.
-/
def MarkersDeclared : Struct -> List String -> Prop
  | nil, _ => True
  | field name cond metatype rest, declared =>
      (metatype.isPad = true -> name ∈ declared) ∧
        (metatype = Metatype.padmarker ->
          forall version r, cond version r = true) ∧
        rest.MarkersDeclared (metatype.marks name ++ declared)
  | object _ _ _ type rest, declared =>
      type.MarkersDeclared [] ∧ rest.MarkersDeclared declared

/-- Every fixed string has a byte for its terminator. -/
def StringsHaveRoom : Struct -> Prop
  | nil => True
  | field _ _ metatype rest => metatype.HasRoom ∧ rest.StringsHaveRoom
  | object _ _ _ type rest => type.StringsHaveRoom ∧ rest.StringsHaveRoom

/-- Every fixed string that is active has a byte for its terminator. -/
def HaveRoom (version : Version) : Struct -> Record -> Prop
  | nil, _ => True
  | field _ cond metatype rest, r =>
      (cond version r = true -> metatype.HasRoom) ∧
        rest.HaveRoom version r
  | object name cond shape type rest, r =>
      (cond version r = true -> forall item, item ∈ shape.items name r ->
        type.HaveRoom version item) ∧ rest.HaveRoom version r

theorem StringsHaveRoom.haveRoom {version : Version} {type : Struct}
    {r : Record} (h : type.StringsHaveRoom) : type.HaveRoom version r := by
  induction type generalizing r with
  | nil => trivial
  | field name cond metatype rest ih =>
      exact ⟨fun _ => h.left, ih h.right⟩
  | object name cond shape type rest ihtype ihrest =>
      exact ⟨fun _ _ _ => ihtype h.left, ihrest h.right⟩

/-- Every dynamic field holds as much as the count in force says. -/
def Enough (version : Version) : Struct -> Record -> Locals -> Prop
  | nil, _, _ => True
  | field name cond metatype rest, r, l =>
      if cond version r then
        metatype.Enough name r l ∧
          rest.Enough version r (metatype.declare name r l)
      else rest.Enough version r (metatype.skip name l)
  | object name cond shape type rest, r, l =>
      if cond version r then
        shape.Enough name r l ∧
          (forall elements, shape.elements name r l = some elements ->
            forall item, item ∈ elements ->
              type.Enough version item Locals.initial) ∧
          rest.Enough version r l
      else rest.Enough version r l

end Struct

/-- Local variables that agree up to the positions of the markers. -/
structure Locals.Similar (l l' : Locals) : Prop where
  size : l.size = l'.size
  marker : forall name, (l.marker name).isSome = (l'.marker name).isSome

namespace Locals.Similar

variable {l l' : Locals}

theorem refl (l : Locals) : l.Similar l := ⟨rfl, fun _ => rfl⟩

theorem setSize (h : l.Similar l') (ref : String) (val : Nat) :
    (l.setSize ref val).Similar (l'.setSize ref val) where
  size := by
    rw [Locals.setSize, Locals.setSize, h.size]
  marker := h.marker

theorem setMarker (h : l.Similar l') (marker : String) (val val' : Nat) :
    (l.setMarker marker val).Similar (l'.setMarker marker val') where
  size := h.size
  marker := by
    intro name
    by_cases heq : name = marker
    · subst heq
      simp [Locals.setMarker]
    · simp [Locals.setMarker, Function.update_of_ne heq, h.marker]

theorem skip (h : l.Similar l') (metatype : Metatype) (name : String) :
    (metatype.skip name l).Similar (metatype.skip name l') := by
  unfold Metatype.skip
  split
  · exact h.setSize _ _
  · exact h

end Locals.Similar

theorem Metatype.skip_marker (metatype : Metatype) (name : String)
    (l : Locals) : (metatype.skip name l).marker = l.marker := by
  unfold Metatype.skip
  split
  · rfl
  · rfl

theorem Metatype.exists_layout {metatype : Metatype} {name : String}
    {r : Record} {l l' : Locals} (offset : Nat) (hsimilar : l.Similar l')
    (henough : metatype.Enough name r l') (hroom : metatype.HasRoom)
    (hmarker : metatype.isPad = true -> (l.marker name).isSome = true) :
    exists after bytes,
      metatype.layout name r l offset = some (after, bytes) ∧
        after.Similar (metatype.declare name r l') := by
  cases metatype with
  | simple type member defaultval => exact ⟨_, _, rfl, hsimilar⟩
  | array type member n defaultval => exact ⟨_, _, rfl, hsimilar⟩
  | dynarray type member =>
      rw [Enough, ← hsimilar.size] at henough
      rw [layout, if_pos henough]
      exact ⟨_, _, rfl, hsimilar⟩
  | count type ref defaultval =>
      exact ⟨_, _, rfl, hsimilar.setSize _ _⟩
  | string n defaultval =>
      rw [layout, if_neg fun hzero => Nat.ne_of_gt hroom hzero.left]
      exact ⟨_, _, rfl, hsimilar⟩
  | dynstring hasNullTerminator defaultval =>
      rw [Enough, ← hsimilar.size] at henough
      have hnul := Bool.toNat_le hasNullTerminator
      rw [layout, if_pos (by lia)]
      exact ⟨_, _, rfl, hsimilar⟩
  | padmarker => exact ⟨_, _, rfl, hsimilar.setMarker _ _ _⟩
  | pad n =>
      rcases Option.isSome_iff_exists.mp (hmarker rfl) with
        ⟨marker, hmarker⟩
      rw [layout, hmarker]
      exact ⟨_, _, rfl, hsimilar⟩
  | endstring hasNullTerminator defaultval => exact ⟨_, _, rfl, hsimilar⟩
  | endarray type member => exact ⟨_, _, rfl, hsimilar⟩

theorem Shape.exists_elements {shape : Shape} {name : String} {r : Record}
    {l l' : Locals} (hsimilar : l.Similar l')
    (henough : shape.Enough name r l') :
    exists elements, shape.elements name r l = some elements ∧
      shape.elements name r l' = some elements := by
  cases shape with
  | simple defaultval => exact ⟨_, rfl, rfl⟩
  | array n => exact ⟨_, rfl, rfl⟩
  | dynarray =>
      rw [Enough] at henough
      rw [elements, elements, hsimilar.size, if_pos henough]
      exact ⟨_, rfl, rfl⟩
  | endarray => exact ⟨_, rfl, rfl⟩

theorem Shape.elements_subset {shape : Shape} {name : String} {r : Record}
    {l : Locals} {elements : List Record}
    (h : shape.elements name r l = some elements) :
    elements ⊆ shape.items name r := by
  cases shape with
  | dynarray =>
      rw [Shape.elements] at h
      split at h
      · cases h
        exact List.take_subset _ _
      · cases h
  | simple | array | endarray =>
      cases h
      exact List.Subset.refl _

theorem exists_mapM {layoutOf : Record -> Option (List (List UInt8))}
    {elements : List Record}
    (h : forall item, item ∈ elements ->
      exists chunks, layoutOf item = some chunks) :
    exists objects, elements.mapM layoutOf = some objects := by
  induction elements with
  | nil => exact ⟨[], rfl⟩
  | cons item items ih =>
      rcases h item List.mem_cons_self with ⟨first, hfirst⟩
      rcases ih fun item hitem => h item (List.mem_cons_of_mem _ hitem) with
        ⟨later, hlater⟩
      refine ⟨first :: later, ?_⟩
      rw [List.mapM_cons, hfirst, Option.bind_eq_bind, Option.bind_some,
        hlater]
      rfl

namespace Struct

theorem declared_after {metatype : Metatype} {name : String} {r : Record}
    {l' after : Locals} {declared : List String}
    (hdeclared : forall marker, marker ∈ declared ->
      (l'.marker marker).isSome = true)
    (hafter : after.Similar (metatype.declare name r l')) (marker : String)
    (hmem : marker ∈ metatype.marks name ++ declared) :
    (after.marker marker).isSome = true := by
  rw [hafter.marker]
  cases metatype with
  | padmarker =>
      by_cases heq : marker = name
      · subst heq
        simp [Metatype.declare, Locals.setMarker]
      · simp only [Metatype.declare, Locals.setMarker,
          Function.update_of_ne heq]
        exact hdeclared marker ((List.mem_cons.mp hmem).resolve_left heq)
  | simple | array | dynarray | count | string | dynstring | pad
  | endstring | endarray => exact hdeclared marker hmem

theorem exists_layout {version : Version} {type : Struct} {r : Record}
    {l l' : Locals} {declared : List String} (offset : Nat)
    (hmarkers : type.MarkersDeclared declared)
    (hdeclared : forall marker, marker ∈ declared ->
      (l.marker marker).isSome = true)
    (hroom : type.HaveRoom version r) (hsimilar : l.Similar l')
    (henough : type.Enough version r l') :
    exists chunks, type.layout version r l offset = some chunks := by
  induction type generalizing r l l' offset declared with
  | nil => exact ⟨[], rfl⟩
  | field name cond metatype rest ih =>
      rcases hmarkers with ⟨hpad, halways, hrest⟩
      rw [Enough] at henough
      rw [layout]
      split at henough
      · rename_i hactive
        have hline := Metatype.exists_layout offset hsimilar
          henough.left (hroom.left hactive)
          (fun hispad => hdeclared name (hpad hispad))
        rcases hline with ⟨after, bytes, hline, hafter⟩
        have hdeclared' : forall marker, marker ∈ declared ->
            (l'.marker marker).isSome = true := by
          intro marker hmem
          rw [← hsimilar.marker]
          exact hdeclared marker hmem
        rcases ih (offset + bytes.length) hrest (declared_after hdeclared' hafter) hroom.right hafter
          henough.right with ⟨later, hlater⟩
        refine ⟨bytes :: later, ?_⟩
        rw [if_pos hactive, hline, Option.bind_eq_bind, Option.bind_some,
          hlater]
        rfl
      · rename_i hinactive
        rw [if_neg hinactive]
        have hmarks : metatype.marks name ++ declared = declared := by
          cases metatype with
          | padmarker => exact absurd (halways rfl version r) hinactive
          | simple | array | dynarray | count | string | dynstring | pad
          | endstring | endarray => rfl
        rw [hmarks] at hrest
        apply ih offset hrest _ hroom.right (hsimilar.skip metatype name) henough
        intro marker hmem
        rw [Metatype.skip_marker]
        exact hdeclared marker hmem
  | object name cond shape type rest ihtype ihrest =>
      rw [Enough] at henough
      rw [layout]
      split at henough
      · rename_i hactive
        rcases henough with ⟨hshape, hitems, hrest⟩
        rcases Shape.exists_elements hsimilar hshape with
          ⟨elements, helements, helements'⟩
        have hobjects : exists objects, elements.mapM (fun item =>
            type.layout version item Locals.initial 0) = some objects := by
          apply exists_mapM
          intro item hitem
          exact ihtype 0 hmarkers.left
            (fun _ hmem => absurd hmem List.not_mem_nil)
            (hroom.left hactive item
              (Shape.elements_subset helements hitem)) (Locals.Similar.refl Locals.initial)
            (hitems elements helements' item hitem)
        rcases hobjects with ⟨objects, hobjects⟩
        rcases ihrest (offset + objects.flatten.flatten.length) hmarkers.right hdeclared hroom.right hsimilar hrest with
          ⟨later, hlater⟩
        refine ⟨objects.flatten ++ later, ?_⟩
        rw [if_pos hactive, helements, Option.bind_eq_bind, Option.bind_some,
          hobjects, Option.bind_eq_bind, Option.bind_some, hlater]
        rfl
      · rename_i hinactive
        rw [if_neg hinactive]
        exact ihrest offset hmarkers.right hdeclared hroom.right hsimilar
          henough

end Struct

namespace PacketType

/-- The sizes of the fields that are active, those of the objects included. -/
def fieldSizes (packet : PacketType) (version : Version) (r : Record) :
    List Nat :=
  ((packet.layout version r).getD []).map List.length

/--
The announced size is the written size, and the packet goes out, whenever its
size fits the header.
-/
theorem announced_eq_written {packet : PacketType}
    (hmarkers : packet.fields.MarkersDeclared [])
    (hstrings : packet.fields.StringsHaveRoom) {version : Version}
    {r : Record} (henough : packet.fields.Enough version r Locals.initial)
    (hsmall : forall size, size ∈ packet.fieldSizes version r ->
      size < 65536)
    (htotal : 7 + (packet.fieldSizes version r).sum < 2 ^ 32)
    (garbage : Nat -> UInt8) :
    exists size bytes, packet.getSize version r = some size ∧
      packet.sendPacket version r garbage =
        some (SendResult.written bytes) ∧ bytes.length = size := by
  rcases Struct.exists_layout 7 hmarkers
      (fun _ hmem => absurd hmem List.not_mem_nil)
      hstrings.haveRoom (Locals.Similar.refl _) henough with ⟨chunks, hlayout⟩
  have hchunks : packet.layout version r = some chunks := hlayout
  rw [fieldSizes, hchunks, Option.getD_some] at hsmall htotal
  rw [← List.length_flatten] at htotal
  have hshort : Struct.Short chunks := by
    intro chunk hchunk
    exact hsmall chunk.length (List.mem_map_of_mem hchunk)
  exact ⟨_, _, getSize_layout hchunks htotal,
    sendPacket_layout hchunks hshort htotal garbage, bytes_length _ _ _⟩

end PacketType

def always : Condition := fun _ _ => true

theorem always_eq (version : Version) (r : Record) :
    always version r = true := rfl

/-- A list whose count is only sent from epic 7.2 on. -/
def listPacket : PacketType where
  getId _ := 208
  fields :=
    Struct.field "items" (fun version _ => 0x070200 ≤ version)
      (Metatype.count uint8 Container.vector (some 1))
      (Struct.field "items" always (Metatype.dynarray uint32 uint32)
        Struct.nil)

theorem announced_eq_written_list :
    exists size bytes,
      listPacket.getSize 0x060100 (Record.zero.setVector "items" [5, 6]) =
        some size ∧
      listPacket.sendPacket 0x060100 (Record.zero.setVector "items" [5, 6])
        (fun _ => 0) = some (PacketType.SendResult.written bytes) ∧
      bytes.length = size := by
  apply PacketType.announced_eq_written
  · refine ⟨?_, ?_, ?_, ?_, trivial⟩
    all_goals intro h
    all_goals cases h
  · exact ⟨trivial, trivial, trivial⟩
  · have hcount : Metatype.Enough "items"
        (Record.zero.setVector "items" [5, 6])
        (Metatype.skip "items" Locals.initial
          (Metatype.count uint8 Container.vector (some 1)))
        (Metatype.dynarray uint32 uint32) := by
      change 1 % 2 ^ 32 ≤ 2
      decide
    exact ⟨hcount, trivial⟩
  · decide +kernel
  · decide +kernel

/-!
## Packets that do not fit

More bytes than the header can announce, and a string without a terminator.
-/

def strings (size : Nat) : Nat -> Struct
  | 0 => Struct.nil
  | n + 1 =>
      Struct.field "text" always (Metatype.string size none) (strings size n)

section Strings

variable (version : Version) (size n : Nat)

theorem strings_addSize (before : Nat) (hbefore : before < 2 ^ 32) :
    (strings size n).addSize version Record.zero Locals.initial before =
      some ((before + n * size) % 2 ^ 32) := by
  induction n generalizing before with
  | zero =>
      rw [Nat.zero_mul, Nat.add_zero, Nat.mod_eq_of_lt hbefore]
      rfl
  | succ n ih =>
      rw [strings, Struct.addSize, if_pos (always_eq _ _), Metatype.addSize,
        Option.bind_eq_bind, Option.bind_some,
        ih (add32 before size) (Nat.mod_lt _ (by decide)), add32,
        Nat.mod_add_mod, Nat.add_assoc, Nat.succ_mul, Nat.add_comm size]

theorem strings_layout (offset : Nat) :
    (strings size n).layout version Record.zero Locals.initial offset =
      some (List.replicate n (List.replicate size 0)) := by
  have hempty : Record.zero.string "text" = [] := rfl
  induction n generalizing offset with
  | zero => rfl
  | succ n ih =>
      rw [strings, Struct.layout, if_pos (always_eq _ _), Metatype.layout,
        hempty, if_neg (fun hboth => hboth.right rfl), Option.bind_eq_bind,
        Option.bind_some, ih, List.take_nil, List.nil_append,
        List.length_nil, Nat.zero_min, Nat.sub_zero, List.replicate_succ]
      rfl

theorem strings_write_overflow {b : MessageBuffer}
    (h : b.bufferOverflow = true) :
    (strings size n).write version Record.zero Locals.initial b =
      some b := by
  have hcheck : b.checkAvailableBuffer "text" size = (false, b) := by
    rw [MessageBuffer.checkAvailableBuffer, if_pos h]
  induction n with
  | zero => rfl
  | succ n ih =>
      rw [strings, Struct.write, if_pos (always_eq _ _), Metatype.write,
        MessageBuffer.writeString, hcheck]
      exact ih

theorem strings_write_long {b : MessageBuffer}
    (hlong : b.getSize < b.p + size) :
    exists after, (strings size (n + 1)).write version Record.zero
      Locals.initial b = some after ∧ after.bufferOverflow = true := by
  have hcheck : exists after,
      b.checkAvailableBuffer "text" size = (false, after) ∧
        after.bufferOverflow = true := by
    rw [MessageBuffer.checkAvailableBuffer]
    split
    · rename_i hoverflow
      exact ⟨b, rfl, hoverflow⟩
    · rw [if_neg fun hboth => Nat.not_le_of_lt hlong hboth.right]
      exact ⟨_, rfl, rfl⟩
  rcases hcheck with ⟨after, hcheck, hoverflow⟩
  refine ⟨after, ?_, hoverflow⟩
  rw [strings, Struct.write, if_pos (always_eq _ _), Metatype.write,
    MessageBuffer.writeString, hcheck]
  exact strings_write_overflow version size n hoverflow

theorem strings_markers (declared : List String) :
    (strings size n).MarkersDeclared declared := by
  induction n generalizing declared with
  | zero => trivial
  | succ n ih =>
      refine ⟨?_, ?_, ih _⟩
      · intro hpad
        cases hpad
      · intro hmarker
        cases hmarker

theorem strings_enough (r : Record) :
    (strings size n).Enough version r Locals.initial := by
  induction n with
  | zero => trivial
  | succ n ih =>
      rw [strings, Struct.Enough, if_pos (always_eq _ _)]
      exact ⟨trivial, ih⟩

end Strings

/-- A packet of 65538 strings of 65535 bytes: its size wraps to 65541. -/
def longPacket : PacketType where
  getId _ := 9001
  fields := strings 65535 65538

theorem longPacket_getSize (version : Version) :
    longPacket.getSize version Record.zero = some 65541 := by
  have hsize := strings_addSize version 65535 65538 7 (by decide)
  exact hsize

theorem longPacket_fieldSizes (version : Version) :
    longPacket.fieldSizes version Record.zero =
      List.replicate 65538 65535 := by
  have hlayout : longPacket.layout version Record.zero =
      some (List.replicate 65538 (List.replicate 65535 0)) :=
    strings_layout version 65535 65538 7
  rw [PacketType.fieldSizes, hlayout, Option.getD_some, List.map_replicate,
    List.length_replicate]

theorem longPacket_aborted (version : Version) (garbage : Nat -> UInt8) :
    longPacket.sendPacket version Record.zero garbage =
      some PacketType.SendResult.aborted := by
  rw [PacketType.sendPacket, longPacket_getSize, Option.bind_eq_bind,
    Option.bind_some]
  have hmemory : ((List.range 65541).map garbage).length = 65541 := by
    rw [List.length_map, List.length_range]
  generalize (List.range 65541).map garbage = memory at hmemory ⊢
  have hsize : (MessageBuffer.create memory).getSize = 65541 := by
    have hbuffer : (MessageBuffer.create memory).buffer = memory := rfl
    have hlt : 65541 % 2 ^ 32 = 65541 := by decide
    rw [MessageBuffer.getSize, hbuffer, hmemory, hlt]
  have hroom : (MessageBuffer.create memory).Room 7 :=
    ⟨rfl, by
      rw [hsize]
      change 0 + 7 ≤ 65541
      decide⟩
  let head := header 65541 (longPacket.getId version).toNat
  have hhead : head.length = 7 := header_length _ _
  have hinside : (MessageBuffer.create memory).p + head.length ≤
      (MessageBuffer.create memory).buffer.length := by
    rw [hhead]
    exact hroom.inside
  have hlong : ((MessageBuffer.create memory).store head).getSize <
      ((MessageBuffer.create memory).store head).p + 65535 := by
    rw [MessageBuffer.getSize, MessageBuffer.store_buffer_length hinside,
      ← MessageBuffer.getSize, hsize, MessageBuffer.store_p, hhead]
    change 65541 < 0 + 7 + 65535
    decide
  rcases strings_write_long version 65535 65537 hlong with
    ⟨after, hwrite, hoverflow⟩
  have hserialize : longPacket.serialize version Record.zero
      (MessageBuffer.create memory) = some after := by
    rw [PacketType.serialize, longPacket_getSize, Option.bind_eq_bind,
      Option.bind_some, writeHeader_room hroom]
    exact hwrite
  rw [hserialize, Option.bind_eq_bind, Option.bind_some,
    MessageBuffer.checkPacketFinalSize, hoverflow]
  rfl

/-- A string of no bytes, and a value of one character for it. -/
def roomlessPacket : PacketType where
  getId _ := 9001
  fields := strings 0 1

def oneCharacter : Record := Record.zero.setString "text" [97]

/--
Neither size is what the claim promises: one packet is aborted although every
field is short, and one write leaves the buffer.
-/
theorem announced_ne_written :
    (longPacket.fields.MarkersDeclared [] ∧
      longPacket.fields.Enough 0 Record.zero Locals.initial ∧
      (forall size, size ∈ longPacket.fieldSizes 0 Record.zero ->
        size < 65536) ∧
      forall garbage, longPacket.sendPacket 0 Record.zero garbage =
        some PacketType.SendResult.aborted) ∧
    (roomlessPacket.fields.MarkersDeclared [] ∧
      roomlessPacket.fields.Enough 0 oneCharacter Locals.initial ∧
      roomlessPacket.getSize 0 oneCharacter = some 7 ∧
      forall garbage,
        roomlessPacket.sendPacket 0 oneCharacter garbage = none) := by
  refine ⟨⟨strings_markers _ _ _, strings_enough _ _ _ _, ?_,
    longPacket_aborted 0⟩, strings_markers _ _ _, strings_enough _ _ _ _,
    rfl, ?_⟩
  · intro size hsize
    rw [longPacket_fieldSizes] at hsize
    rw [(List.mem_replicate.mp hsize).right]
    decide
  · intro garbage
    rfl

end Packet
end Rzu
