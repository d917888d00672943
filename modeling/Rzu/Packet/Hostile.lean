import Mathlib.Logic.Relation
import Rzu.Packet.AnnouncedSize

/-!
# Hostile bytes

Whatever bytes arrive, the deserialization ends, stays inside the memory, and
fills no container beyond what the check of its field lets pass.
-/

namespace Rzu
namespace Packet

open Library

namespace MessageBuffer

/--
What one read does: it is refused, or the cursor moves over the memory that was
asked for.
-/
inductive Move : MessageBuffer -> MessageBuffer -> Prop where
  | refused {b b' : MessageBuffer} (fieldName : String) (size : Nat)
      (hcheck : b.checkAvailableBuffer fieldName size = (false, b')) :
      Move b b'
  | advanced {b b' : MessageBuffer} (fieldName : String) (size : Nat)
      (hcheck : b.checkAvailableBuffer fieldName size = (true, b')) :
      Move b (b'.advance size)

def Moves : MessageBuffer -> MessageBuffer -> Prop :=
  Relation.ReflTransGen Move

/-- The cursor has not left the memory. -/
def Inside (b : MessageBuffer) : Prop := b.p ≤ b.getSize

variable {b b' : MessageBuffer} {fieldName : String} {size : Nat}

theorem checkAvailableBuffer_true
    (h : b.checkAvailableBuffer fieldName size = (true, b')) :
    b' = b ∧ b.bufferOverflow = false ∧ size < 65536 ∧
      b.p + size ≤ b.getSize := by
  rw [checkAvailableBuffer] at h
  split at h
  · cases h
  · rename_i hoverflow
    split at h
    · rename_i hfits
      cases h
      exact ⟨rfl, eq_false_of_ne_true hoverflow, hfits⟩
    · cases h

theorem checkAvailableBuffer_false
    (h : b.checkAvailableBuffer fieldName size = (false, b')) :
    b'.buffer = b.buffer ∧ b'.p = b.p ∧
      (b.bufferOverflow = true -> b' = b) := by
  rw [checkAvailableBuffer] at h
  split at h
  · cases h
    exact ⟨rfl, rfl, fun _ => rfl⟩
  · rename_i hoverflow
    split at h
    · cases h
    · cases h
      exact ⟨rfl, rfl, fun h => absurd h hoverflow⟩

theorem Move.buffer (h : b.Move b') : b'.buffer = b.buffer := by
  cases h with
  | refused fieldName size hcheck =>
      exact (checkAvailableBuffer_false hcheck).left
  | advanced fieldName size hcheck =>
      rw [(checkAvailableBuffer_true hcheck).left]
      rfl

theorem Move.le_p (h : b.Move b') : b.p ≤ b'.p := by
  cases h with
  | refused fieldName size hcheck =>
      rw [(checkAvailableBuffer_false hcheck).right.left]
  | advanced fieldName size hcheck =>
      rw [(checkAvailableBuffer_true hcheck).left]
      exact Nat.le_add_right _ _

theorem Move.inside (h : b.Move b') (hinside : b.Inside) : b'.Inside := by
  have hsize : b'.getSize = b.getSize := by
    rw [getSize, getSize, h.buffer]
  rw [Inside, hsize]
  cases h with
  | refused fieldName size hcheck =>
      rw [(checkAvailableBuffer_false hcheck).right.left]
      exact hinside
  | advanced fieldName size hcheck =>
      rcases checkAvailableBuffer_true hcheck with ⟨hsame, _, _, hfits⟩
      rw [hsame]
      exact hfits

theorem Move.eq_of_overflow (h : b.Move b')
    (hoverflow : b.bufferOverflow = true) : b' = b := by
  cases h with
  | refused fieldName size hcheck =>
      exact (checkAvailableBuffer_false hcheck).right.right hoverflow
  | advanced fieldName size hcheck =>
      have hnot := (checkAvailableBuffer_true hcheck).right.left
      rw [hnot] at hoverflow
      cases hoverflow

namespace Moves

theorem refl (b : MessageBuffer) : b.Moves b := Relation.ReflTransGen.refl

theorem trans {b'' : MessageBuffer} (h : b.Moves b') (h' : b'.Moves b'') :
    b.Moves b'' :=
  Relation.ReflTransGen.trans h h'

theorem single (h : b.Move b') : b.Moves b' := Relation.ReflTransGen.single h

theorem buffer (h : b.Moves b') : b'.buffer = b.buffer := by
  induction h with
  | refl => rfl
  | tail _ hmove ih => rw [hmove.buffer, ih]

theorem getSize (h : b.Moves b') : b'.getSize = b.getSize := by
  rw [MessageBuffer.getSize, MessageBuffer.getSize, h.buffer]

theorem le_p (h : b.Moves b') : b.p ≤ b'.p := by
  induction h with
  | refl => exact Nat.le_refl _
  | tail _ hmove ih => exact Nat.le_trans ih hmove.le_p

theorem inside (h : b.Moves b') (hinside : b.Inside) : b'.Inside := by
  induction h with
  | refl => exact hinside
  | tail _ hmove ih => exact hmove.inside ih

theorem eq_of_overflow (h : b.Moves b') (hoverflow : b.bufferOverflow = true) :
    b' = b := by
  induction h with
  | refl => rfl
  | tail _ hmove ih =>
      rw [ih] at hmove
      exact hmove.eq_of_overflow hoverflow

end Moves

theorem Inside.getParsedSize (h : b.Inside) : b.getParsedSize = b.p :=
  Nat.mod_eq_of_lt (Nat.lt_of_le_of_lt h b.getSize_lt)

/-!
## Primitive reads

A read has a result, since it stays inside the memory that its check found.
-/

theorem load_of_check
    (h : b.checkAvailableBuffer fieldName size = (true, b')) {n : Nat}
    (hn : b.p + n ≤ b.getSize) :
    exists bytes, b'.load n = some bytes ∧ bytes.length ≤ n := by
  rcases checkAvailableBuffer_true h with ⟨hsame, _⟩
  rw [hsame, load, if_pos (Nat.le_trans hn b.getSize_le)]
  refine ⟨_, rfl, ?_⟩
  rw [List.length_take]
  exact Nat.min_le_left _ _

theorem read_safe (T U : IntType) (b : MessageBuffer) (fieldName : String)
    (val : Int) :
    exists b' val', b.read T U fieldName val = some (b', val') ∧
      b.Moves b' := by
  rw [read]
  rcases hcheck : b.checkAvailableBuffer fieldName T.size with ⟨ok, b'⟩
  cases ok with
  | true =>
      rcases checkAvailableBuffer_true hcheck with ⟨_, _, _, hfits⟩
      rcases load_of_check hcheck hfits with ⟨bytes, hload, _⟩
      simp only [hload, Option.bind_eq_bind, Option.bind_some]
      exact ⟨_, _, rfl, Moves.single (Move.advanced _ _ hcheck)⟩
  | false => exact ⟨_, _, rfl, Moves.single (Move.refused _ _ hcheck)⟩

theorem readString_safe (b : MessageBuffer) (fieldName : String)
    (val : CharString) (maxSize : Nat) :
    exists b' val', b.readString fieldName val maxSize = some (b', val') ∧
      b.Moves b' ∧ (val' = val ∨ val'.length < 65536) := by
  rw [readString]
  rcases hcheck : b.checkAvailableBuffer fieldName maxSize with ⟨ok, b'⟩
  cases ok with
  | true =>
      rcases checkAvailableBuffer_true hcheck with ⟨_, _, hsmall, hfits⟩
      rcases load_of_check hcheck (n := maxSize - 1) (by lia) with
        ⟨bytes, hload, hlength⟩
      simp only [hload, Option.bind_eq_bind, Option.bind_some]
      refine ⟨_, _, rfl, Moves.single (Move.advanced _ _ hcheck),
        Or.inr ?_⟩
      have hle := (List.takeWhile_sublist
        (p := (· ≠ (0 : UInt8))) (l := bytes)).length_le
      exact lt_of_le_of_lt hle (by lia)
  | false =>
      exact ⟨_, _, rfl, Moves.single (Move.refused _ _ hcheck), Or.inl rfl⟩

theorem readDynString_safe (b : MessageBuffer) (fieldName : String)
    (val : CharString) (sizeToRead : Nat) (hasNullTerminator : Bool) :
    exists b' val',
      b.readDynString fieldName val sizeToRead hasNullTerminator =
        some (b', val') ∧
      b.Moves b' ∧ (val' = val ∨ val'.length < 65536) := by
  rw [readDynString]
  rcases hcheck : b.checkAvailableBuffer fieldName sizeToRead with ⟨ok, b'⟩
  cases ok with
  | true =>
      rcases checkAvailableBuffer_true hcheck with ⟨_, _, hsmall, hfits⟩
      rcases load_of_check hcheck
        (n := sizeToRead - hasNullTerminator.toNat) (by lia) with
        ⟨bytes, hload, hlength⟩
      simp only [hload, Option.bind_eq_bind, Option.bind_some]
      refine ⟨_, _, rfl, Moves.single (Move.advanced _ _ hcheck),
        Or.inr ?_⟩
      split
      · exact Nat.zero_lt_succ _
      · lia
  | false =>
      exact ⟨_, _, rfl, Moves.single (Move.refused _ _ hcheck), Or.inl rfl⟩

theorem readArray_safe (T U : IntType) (b : MessageBuffer)
    (fieldName : String) (val : Nat -> Int) (size : Nat) :
    exists b' val', b.readArray T U fieldName val size = some (b', val') ∧
      b.Moves b' := by
  rw [readArray]
  rcases hcheck : b.checkAvailableBuffer fieldName (T.size * size) with
    ⟨ok, b'⟩
  cases ok with
  | true =>
      rcases checkAvailableBuffer_true hcheck with ⟨_, _, _, hfits⟩
      rcases load_of_check hcheck hfits with ⟨bytes, hload, _⟩
      simp only [hload, Option.bind_eq_bind, Option.bind_some]
      exact ⟨_, _, rfl, Moves.single (Move.advanced _ _ hcheck)⟩
  | false => exact ⟨_, _, rfl, Moves.single (Move.refused _ _ hcheck)⟩

theorem length_elements_lt {T : IntType} {count : Nat} {val : Nat -> Int}
    (hsmall : T.size * count < 65536) :
    ((List.range count).map val).length < 65536 := by
  rw [List.length_map, List.length_range]
  exact lt_of_le_of_lt (Nat.le_mul_of_pos_left _ T.positive) hsmall

theorem readDynArray_safe (T U : IntType) (b : MessageBuffer)
    (fieldName : String) (sizeToRead : Nat) :
    exists b' val', b.readDynArray T U fieldName sizeToRead =
        some (b', val') ∧
      b.Moves b' ∧ val'.length < 65536 := by
  rw [readDynArray]
  split
  · exact ⟨_, _, rfl, Moves.refl b, Nat.zero_lt_succ _⟩
  · rcases hcheck :
      b.checkAvailableBuffer fieldName (T.size * sizeToRead) with ⟨ok, b'⟩
    cases ok with
    | true =>
        rcases checkAvailableBuffer_true hcheck with ⟨_, _, hsmall, hfits⟩
        rcases load_of_check hcheck hfits with ⟨bytes, hload, _⟩
        simp only [hload, Option.bind_eq_bind, Option.bind_some]
        exact ⟨_, _, rfl, Moves.single (Move.advanced _ _ hcheck),
          length_elements_lt hsmall⟩
    | false =>
        exact ⟨_, _, rfl, Moves.single (Move.refused _ _ hcheck),
          Nat.zero_lt_succ _⟩

theorem readEndArray_safe (T U : IntType) (b : MessageBuffer)
    (fieldName : String) (val : List Int) :
    exists b' val', b.readEndArray T U fieldName val = some (b', val') ∧
      b.Moves b' ∧ (val' = val ∨ val'.length < 65536) := by
  rw [readEndArray]
  rcases hcheck :
    b.checkAvailableBuffer fieldName (b.remainingSize / T.size) with ⟨ok, b'⟩
  cases ok with
  | true =>
      rcases checkAvailableBuffer_true hcheck with ⟨_, _, hsmall, hfits⟩
      have hinside : b.Inside := Nat.le_trans (Nat.le_add_right _ _) hfits
      have hbytes : b.p + T.size * (b.remainingSize / T.size) ≤ b.getSize := by
        have hle := Nat.mul_div_le b.remainingSize T.size
        have hremaining : b.remainingSize = b.getSize - b.p := by
          rw [remainingSize, hinside.getParsedSize]
        have hp : b.p ≤ b.getSize := hinside
        lia
      rcases load_of_check hcheck hbytes with ⟨bytes, hload, _⟩
      simp only [hload, Option.bind_eq_bind, Option.bind_some]
      refine ⟨_, _, rfl, Moves.single (Move.advanced _ _ hcheck),
        Or.inr ?_⟩
      rw [List.length_map, List.length_range]
      exact hsmall
  | false =>
      simp only
      exact ⟨_, _, rfl, Moves.single (Move.refused _ _ hcheck), Or.inl rfl⟩

theorem discard_moves (b : MessageBuffer) (fieldName : String) (size : Nat) :
    b.Moves (b.discard fieldName size) := by
  rw [discard]
  rcases hcheck : b.checkAvailableBuffer fieldName size with ⟨ok, b'⟩
  cases ok with
  | true => exact Moves.single (Move.advanced _ _ hcheck)
  | false => exact Moves.single (Move.refused _ _ hcheck)

theorem readHeader_safe (b : MessageBuffer) (id : Int) :
    exists b' id', b.readHeader id = some (b', id') ∧ b.Moves b' := by
  rcases (b.discard "size" 4).read_safe uint16 uint16 "id" id with
    ⟨b', id', hread, hmoves⟩
  refine ⟨b'.discard "msg_checksum" 1, id', ?_, ?_⟩
  · rw [readHeader, hread]
    rfl
  · exact ((b.discard_moves "size" 4).trans hmoves).trans
      (b'.discard_moves "msg_checksum" 1)

end MessageBuffer

/-!
## Large containers
-/

namespace Record

/-- A container of at least 65536 elements. -/
def HoldsMany (r : Record) (name : String) : Prop :=
  65536 ≤ (r.vector name).length ∨ 65536 ≤ (r.string name).length ∨
    65536 ≤ (r.objectVector name).length

def Holds (r : Record) (name : String) (item : Record) : Prop :=
  r.object? name = some item ∨
    (exists i, r.objectArray? name i = some item) ∨
    item ∈ r.objectVector name

/-- The container that a path of members leads to is large. -/
def Big : List String -> Record -> Prop
  | [], _ => False
  | name :: path, r =>
      (path = [] ∧ r.HoldsMany name) ∨
        exists item, r.Holds name item ∧ Big path item

/-- A large container lies in an item that a member holds. -/
def BigBelow (name : String) (items : List Record) (path : List String) :
    Prop :=
  exists below item, path = name :: below ∧ item ∈ items ∧ Big below item

variable {r item : Record} {path : List String} {name : String}

theorem not_big_zero : ¬ Big path zero := by
  intro hbig
  cases path with
  | nil => exact hbig
  | cons name path =>
      rcases hbig with ⟨_, hmany⟩ | ⟨item, hholds, _⟩
      · rcases hmany with hmany | hmany | hmany
        · cases hmany
        · cases hmany
        · cases hmany
      · rcases hholds with hholds | ⟨i, hholds⟩ | hholds
        · cases hholds
        · cases hholds
        · cases hholds

theorem Big.of_members {s : Record} (h : Big path s)
    (hmany : forall name, s.HoldsMany name -> r.HoldsMany name)
    (hholds : forall name item, s.Holds name item -> r.Holds name item) :
    Big path r := by
  cases path with
  | nil => exact h
  | cons name path =>
      rcases h with ⟨hnil, hmany'⟩ | ⟨item, hholds', hbig⟩
      · exact Or.inl ⟨hnil, hmany name hmany'⟩
      · exact Or.inr ⟨item, hholds name item hholds', hbig⟩

theorem big_of_setInteger {val : Int} (h : Big path (r.setInteger name val)) :
    Big path r :=
  h.of_members (fun _ h => h) (fun _ _ h => h)

theorem big_of_setArray {val : Nat -> Int}
    (h : Big path (r.setArray name val)) : Big path r :=
  h.of_members (fun _ h => h) (fun _ _ h => h)

theorem big_of_setVector {val : List Int}
    (h : Big path (r.setVector name val))
    (hval : val = r.vector name ∨ val.length < 65536) : Big path r := by
  refine h.of_members ?_ (fun _ _ h => h)
  intro other hmany
  rcases hmany with hmany | hmany
  · change 65536 ≤ (Function.update r.vector name val other).length at hmany
    by_cases hname : other = name
    · rw [hname, Function.update_self] at hmany
      rcases hval with hval | hval
      · rw [hval] at hmany
        exact hname ▸ Or.inl hmany
      · exact absurd hmany (Nat.not_le_of_lt hval)
    · rw [Function.update_of_ne hname] at hmany
      exact Or.inl hmany
  · exact Or.inr hmany

theorem Big.of_assigned {s : Record} (h : Big path s) (name : String)
    (long : Prop) (items : List Record)
    (hmany : forall other, s.HoldsMany other ->
      r.HoldsMany other ∨ (other = name ∧ long))
    (hholds : forall other item, s.Holds other item ->
      r.Holds other item ∨ (other = name ∧ item ∈ items)) :
    Big path r ∨ (path = [name] ∧ long) ∨ BigBelow name items path := by
  cases path with
  | nil => exact Or.inl h
  | cons other path =>
      rcases h with ⟨hnil, hmany'⟩ | ⟨item, hholds', hbig⟩
      · rcases hmany other hmany' with hmany' | ⟨hname, hlong⟩
        · exact Or.inl (Or.inl ⟨hnil, hmany'⟩)
        · exact Or.inr (Or.inl ⟨by rw [hnil, hname], hlong⟩)
      · rcases hholds other item hholds' with hholds' | ⟨hname, hitem⟩
        · exact Or.inl (Or.inr ⟨item, hholds', hbig⟩)
        · exact Or.inr (Or.inr ⟨path, item, by rw [hname], hitem, hbig⟩)

theorem not_bigBelow_nil : ¬ BigBelow name [] path := by
  intro ⟨_, _, _, hitem, _⟩
  cases hitem

theorem big_of_setString {val : CharString}
    (h : Big path (r.setString name val)) :
    Big path r ∨ (path = [name] ∧ 65536 ≤ val.length) := by
  have hassigned := h.of_assigned (r := r) name (65536 ≤ val.length) [] ?_
    (fun _ _ h => Or.inl h)
  · rcases hassigned with hbig | hlong | hbelow
    · exact Or.inl hbig
    · exact Or.inr hlong
    · exact absurd hbelow not_bigBelow_nil
  · intro other hmany
    rcases hmany with hmany | hmany | hmany
    · exact Or.inl (Or.inl hmany)
    · change 65536 ≤ (Function.update r.string name val other).length at hmany
      by_cases hname : other = name
      · rw [hname, Function.update_self] at hmany
        exact Or.inr ⟨hname, hmany⟩
      · rw [Function.update_of_ne hname] at hmany
        exact Or.inl (Or.inr (Or.inl hmany))
    · exact Or.inl (Or.inr (Or.inr hmany))

theorem big_of_setShortString {val : CharString}
    (h : Big path (r.setString name val))
    (hval : val = r.string name ∨ val.length < 65536) : Big path r := by
  rcases big_of_setString h with h | ⟨hpath, hlong⟩
  · exact h
  · rcases hval with hval | hval
    · rw [hpath]
      rw [hval] at hlong
      exact Or.inl ⟨rfl, Or.inr (Or.inl hlong)⟩
    · exact absurd hlong (Nat.not_le_of_lt hval)

theorem big_of_setObject (h : Big path (r.setObject name item)) :
    Big path r ∨ BigBelow name [item] path := by
  have hassigned := h.of_assigned (r := r) name False [item]
    (fun _ h => Or.inl h) ?_
  · rcases hassigned with hbig | ⟨_, hlong⟩ | hbelow
    · exact Or.inl hbig
    · exact hlong.elim
    · exact Or.inr hbelow
  · intro other item' hholds
    rcases hholds with hholds | hholds
    · change Function.update r.object? name (some item) other = some item'
        at hholds
      by_cases hname : other = name
      · rw [hname, Function.update_self] at hholds
        cases hholds
        exact Or.inr ⟨hname, List.mem_singleton_self _⟩
      · rw [Function.update_of_ne hname] at hholds
        exact Or.inl (Or.inl hholds)
    · exact Or.inl (Or.inr hholds)

theorem big_of_setObjectArray {items : List Record}
    (h : Big path (r.setObjectArray name items)) :
    Big path r ∨ BigBelow name items path := by
  have hassigned := h.of_assigned (r := r) name False items
    (fun _ h => Or.inl h) ?_
  · rcases hassigned with hbig | ⟨_, hlong⟩ | hbelow
    · exact Or.inl hbig
    · exact hlong.elim
    · exact Or.inr hbelow
  · intro other item' hholds
    rcases hholds with hholds | ⟨i, hholds⟩ | hholds
    · exact Or.inl (Or.inl hholds)
    · change Function.update r.objectArray? name _ other i = some item'
        at hholds
      by_cases hname : other = name
      · rw [hname, Function.update_self] at hholds
        split at hholds
        · exact Or.inr ⟨hname, List.mem_of_getElem? hholds⟩
        · rw [hname]
          exact Or.inl (Or.inr (Or.inl ⟨i, hholds⟩))
      · rw [Function.update_of_ne hname] at hholds
        exact Or.inl (Or.inr (Or.inl ⟨i, hholds⟩))
    · exact Or.inl (Or.inr (Or.inr hholds))

theorem big_of_setObjectVector {items : List Record}
    (h : Big path (r.setObjectVector name items)) :
    Big path r ∨ (path = [name] ∧ 65536 ≤ items.length) ∨
      BigBelow name items path := by
  refine h.of_assigned name _ items ?_ ?_
  · intro other hmany
    rcases hmany with hmany | hmany | hmany
    · exact Or.inl (Or.inl hmany)
    · exact Or.inl (Or.inr (Or.inl hmany))
    · change 65536 ≤ (Function.update r.objectVector name items other).length
        at hmany
      by_cases hname : other = name
      · rw [hname, Function.update_self] at hmany
        exact Or.inr ⟨hname, hmany⟩
      · rw [Function.update_of_ne hname] at hmany
        exact Or.inl (Or.inr (Or.inr hmany))
  · intro other item' hholds
    rcases hholds with hholds | hholds | hholds
    · exact Or.inl (Or.inl hholds)
    · exact Or.inl (Or.inr (Or.inl hholds))
    · change item' ∈ Function.update r.objectVector name items other at hholds
      by_cases hname : other = name
      · rw [hname, Function.update_self] at hholds
        exact Or.inr ⟨hname, hholds⟩
      · rw [Function.update_of_ne hname] at hholds
        exact Or.inl (Or.inr (Or.inr hholds))

end Record

/-!
## Fields
-/

namespace Metatype

theorem read_bounded {metatype : Metatype} {name : String} {l l' : Locals}
    {b b' : MessageBuffer} {r g : Record}
    (h : metatype.read name l b r = some (l', b', g)) :
    b.Moves b' ∧ forall path, Record.Big path g -> Record.Big path r := by
  cases metatype with
  | simple type member defaultval =>
      rcases b.read_safe type member name (r.integer name) with
        ⟨b1, val, hread, hmoves⟩
      rw [read, hread] at h
      cases h
      exact ⟨hmoves, fun _ => Record.big_of_setInteger⟩
  | array type member n defaultval =>
      rcases b.readArray_safe type member name (r.array name) n with
        ⟨b1, val, hread, hmoves⟩
      rw [read, hread] at h
      cases h
      exact ⟨hmoves, fun _ => Record.big_of_setArray⟩
  | dynarray type member =>
      rcases b.readDynArray_safe type member name (l.size name) with
        ⟨b1, val, hread, hmoves, hshort⟩
      rw [read, hread] at h
      cases h
      exact ⟨hmoves, fun _ hbig =>
        Record.big_of_setVector hbig (Or.inr hshort)⟩
  | count type ref defaultval =>
      rcases b.read_safe type uint32 name (l.size name) with
        ⟨b1, val, hread, hmoves⟩
      rw [read, MessageBuffer.readSize, hread] at h
      cases h
      exact ⟨hmoves, fun _ hbig => hbig⟩
  | string n defaultval =>
      rcases b.readString_safe name (r.string name) n with
        ⟨b1, val, hread, hmoves, hshort⟩
      rw [read, hread] at h
      cases h
      exact ⟨hmoves, fun _ hbig => Record.big_of_setShortString hbig hshort⟩
  | dynstring hasNullTerminator defaultval =>
      rcases b.readDynString_safe name (r.string name) (l.size name)
        hasNullTerminator with ⟨b1, val, hread, hmoves, hshort⟩
      rw [read, hread] at h
      cases h
      exact ⟨hmoves, fun _ hbig => Record.big_of_setShortString hbig hshort⟩
  | padmarker =>
      cases h
      exact ⟨MessageBuffer.Moves.refl b, fun _ hbig => hbig⟩
  | pad n =>
      rw [read] at h
      rcases hmarker : l.marker name with _ | marker
      · rw [hmarker] at h
        cases h
      · rw [hmarker, Option.bind_eq_bind, Option.bind_some] at h
        split at h
        · cases h
          exact ⟨b.discard_moves _ _, fun _ hbig => hbig⟩
        · cases h
          exact ⟨MessageBuffer.Moves.refl b, fun _ hbig => hbig⟩
  | endstring hasNullTerminator defaultval =>
      rcases b.readDynString_safe name (r.string name) b.remainingSize
        hasNullTerminator with ⟨b1, val, hread, hmoves, hshort⟩
      rw [read, MessageBuffer.readEndString, hread] at h
      cases h
      exact ⟨hmoves, fun _ hbig => Record.big_of_setShortString hbig hshort⟩
  | endarray type member =>
      rcases b.readEndArray_safe type member name (r.vector name) with
        ⟨b1, val, hread, hmoves, hshort⟩
      rw [read, hread] at h
      cases h
      exact ⟨hmoves, fun _ hbig => Record.big_of_setVector hbig hshort⟩

theorem read_total {metatype : Metatype} {name : String} {l : Locals}
    (hpad : metatype.isPad = true -> (l.marker name).isSome)
    (b : MessageBuffer) (r : Record) :
    exists l' b' g, metatype.read name l b r = some (l', b', g) ∧
      forall marker, (l.marker marker).isSome ∨
        marker ∈ metatype.marks name -> (l'.marker marker).isSome := by
  have hkept : forall marker, (l.marker marker).isSome ∨
      marker ∈ ([] : List String) -> (l.marker marker).isSome := by
    intro marker hmarker
    rcases hmarker with hmarker | hmarker
    · exact hmarker
    · cases hmarker
  cases metatype with
  | simple type member defaultval =>
      rcases b.read_safe type member name (r.integer name) with
        ⟨b1, val, hread, _⟩
      rw [read, hread]
      exact ⟨_, _, _, rfl, hkept⟩
  | array type member n defaultval =>
      rcases b.readArray_safe type member name (r.array name) n with
        ⟨b1, val, hread, _⟩
      rw [read, hread]
      exact ⟨_, _, _, rfl, hkept⟩
  | dynarray type member =>
      rcases b.readDynArray_safe type member name (l.size name) with
        ⟨b1, val, hread, _⟩
      rw [read, hread]
      exact ⟨_, _, _, rfl, hkept⟩
  | count type ref defaultval =>
      rcases b.read_safe type uint32 name (l.size name) with
        ⟨b1, val, hread, _⟩
      rw [read, MessageBuffer.readSize, hread]
      exact ⟨_, _, _, rfl, hkept⟩
  | string n defaultval =>
      rcases b.readString_safe name (r.string name) n with
        ⟨b1, val, hread, _⟩
      rw [read, hread]
      exact ⟨_, _, _, rfl, hkept⟩
  | dynstring hasNullTerminator defaultval =>
      rcases b.readDynString_safe name (r.string name) (l.size name)
        hasNullTerminator with ⟨b1, val, hread, _⟩
      rw [read, hread]
      exact ⟨_, _, _, rfl, hkept⟩
  | padmarker =>
      refine ⟨_, _, _, rfl, ?_⟩
      intro marker hmarker
      change (Function.update l.marker name (some b.getParsedSize)
        marker).isSome = true
      by_cases hname : marker = name
      · rw [hname, Function.update_self]
        rfl
      · rw [Function.update_of_ne hname]
        rcases hmarker with hmarker | hmarker
        · exact hmarker
        · exact absurd (List.mem_singleton.mp hmarker) hname
  | pad n =>
      rcases Option.isSome_iff_exists.mp (hpad rfl) with ⟨marker, hmarker⟩
      rw [read, hmarker, Option.bind_eq_bind, Option.bind_some]
      split
      · exact ⟨_, _, _, rfl, hkept⟩
      · exact ⟨_, _, _, rfl, hkept⟩
  | endstring hasNullTerminator defaultval =>
      rcases b.readDynString_safe name (r.string name) b.remainingSize
        hasNullTerminator with ⟨b1, val, hread, _⟩
      rw [read, MessageBuffer.readEndString, hread]
      exact ⟨_, _, _, rfl, hkept⟩
  | endarray type member =>
      rcases b.readEndArray_safe type member name (r.vector name) with
        ⟨b1, val, hread, _⟩
      rw [read, hread]
      exact ⟨_, _, _, rfl, hkept⟩

/-- The default of a field is a string of at least 65536 characters. -/
def LongDefault : Metatype -> Prop
  | string _ (some defaultval) => 65536 ≤ defaultval.length
  | dynstring _ (some defaultval) => 65536 ≤ defaultval.length
  | endstring _ (some defaultval) => 65536 ≤ defaultval.length
  | _ => False

theorem copyDefaultValue_bounded {metatype : Metatype} {name : String}
    {r : Record} {path : List String}
    (h : Record.Big path (metatype.copyDefaultValue name r)) :
    Record.Big path r ∨ (path = [name] ∧ metatype.LongDefault) := by
  cases metatype with
  | simple type member defaultval =>
      cases defaultval with
      | none => exact Or.inl h
      | some defaultval => exact Or.inl (Record.big_of_setInteger h)
  | array type member n defaultval =>
      cases defaultval with
      | none => exact Or.inl h
      | some defaultval => exact Or.inl (Record.big_of_setArray h)
  | dynarray type member => exact Or.inl h
  | count type ref defaultval => exact Or.inl h
  | string n defaultval =>
      cases defaultval with
      | none => exact Or.inl h
      | some defaultval => exact Record.big_of_setString h
  | dynstring hasNullTerminator defaultval =>
      cases defaultval with
      | none => exact Or.inl h
      | some defaultval => exact Record.big_of_setString h
  | padmarker => exact Or.inl h
  | pad n => exact Or.inl h
  | endstring hasNullTerminator defaultval =>
      cases defaultval with
      | none => exact Or.inl h
      | some defaultval => exact Record.big_of_setString h
  | endarray type member => exact Or.inl h

end Metatype

/-!
## Objects
-/

namespace Record

variable {r item : Record} {path : List String} {name : String}

theorem big_of_object (h : Big path (r.object name)) :
    Big (name :: path) r := by
  rw [object] at h
  cases hobject : r.object? name with
  | none =>
      rw [hobject] at h
      exact absurd h not_big_zero
  | some item =>
      rw [hobject] at h
      exact Or.inr ⟨item, Or.inl hobject, h⟩

theorem big_of_objectArray {i : Nat} (h : Big path (r.objectArray name i)) :
    Big (name :: path) r := by
  rw [objectArray] at h
  cases hobject : r.objectArray? name i with
  | none =>
      rw [hobject] at h
      exact absurd h not_big_zero
  | some item =>
      rw [hobject] at h
      exact Or.inr ⟨item, Or.inr (Or.inl ⟨i, hobject⟩), h⟩

theorem big_of_resized {count : Nat}
    (hitem : item ∈ resize count (r.objectVector name))
    (h : Big path item) : Big (name :: path) r := by
  rcases List.mem_append.mp hitem with hitem | hitem
  · exact Or.inr ⟨item, Or.inr (Or.inr (List.mem_of_mem_take hitem)), h⟩
  · rw [(List.mem_replicate.mp hitem).right] at h
    exact absurd h not_big_zero

end Record

theorem length_resize_le (count : Nat) (val : List Record) :
    (resize count val).length = count := by
  rw [resize, List.length_append, List.length_take, List.length_replicate]
  lia

section

variable {readItem : MessageBuffer -> Record ->
    Option (MessageBuffer × Record)}
variable {ok : List String -> Prop}

/-- An object that is read gets no large containers but those that are ok. -/
def ReadsBounded (readItem : MessageBuffer -> Record ->
    Option (MessageBuffer × Record)) (ok : List String -> Prop) : Prop :=
  forall b b' item item', readItem b item = some (b', item') ->
    b.Moves b' ∧ forall path, Record.Big path item' ->
      ok path ∨ Record.Big path item

theorem readEach_bounded (hitem : ReadsBounded readItem ok)
    {items items' : List Record} {b b' : MessageBuffer}
    (h : readEach readItem items b = some (b', items')) :
    b.Moves b' ∧ items'.length = items.length ∧
      forall item' path, item' ∈ items' -> Record.Big path item' ->
        ok path ∨ exists item, item ∈ items ∧ Record.Big path item := by
  induction items generalizing b items' with
  | nil =>
      cases h
      refine ⟨MessageBuffer.Moves.refl _, rfl, ?_⟩
      intro item' path hmem
      cases hmem
  | cons item items ih =>
      rw [readEach, Option.bind_eq_bind, Option.bind_eq_some_iff] at h
      rcases h with ⟨⟨b1, first⟩, hfirst, h⟩
      rw [Option.bind_eq_bind, Option.bind_eq_some_iff] at h
      rcases h with ⟨⟨b2, later⟩, hlater, h⟩
      cases h
      rcases hitem _ _ _ _ hfirst with ⟨hmoves, hbig⟩
      rcases ih hlater with ⟨hmoves', hlength, hbig'⟩
      refine ⟨hmoves.trans hmoves', by rw [List.length_cons,
        List.length_cons, hlength], ?_⟩
      intro item' path hmem hlarge
      rcases List.mem_cons.mp hmem with hmem | hmem
      · rw [hmem] at hlarge
        rcases hbig path hlarge with hok | hlarge
        · exact Or.inl hok
        · exact Or.inr ⟨item, List.mem_cons_self, hlarge⟩
      · rcases hbig' item' path hmem hlarge with hok | ⟨item0, hmem, hlarge⟩
        · exact Or.inl hok
        · exact Or.inr ⟨item0, List.mem_cons_of_mem _ hmem, hlarge⟩

theorem readEndEach_bounded (hitem : ReadsBounded readItem ok) {fuel : Nat}
    {lastParsedSize : Nat} {b b' : MessageBuffer} {val val' : List Record}
    (h : readEndEach readItem fuel lastParsedSize b val = some (b', val')) :
    b.Moves b' ∧ forall item' path, item' ∈ val' -> Record.Big path item' ->
      ok path ∨ exists item, item ∈ val ∧ Record.Big path item := by
  induction fuel generalizing lastParsedSize b val with
  | zero => cases h
  | succ fuel ih =>
      rw [readEndEach] at h
      split at h
      · rw [Option.bind_eq_bind, Option.bind_eq_some_iff] at h
        rcases h with ⟨⟨b1, next⟩, hnext, h⟩
        rcases hitem _ _ _ _ hnext with ⟨hmoves, hbig⟩
        rcases ih h with ⟨hmoves', hbig'⟩
        refine ⟨hmoves.trans hmoves', ?_⟩
        intro item' path hmem hlarge
        rcases hbig' item' path hmem hlarge with hok | ⟨item, hmem, hlarge⟩
        · exact Or.inl hok
        · rcases List.mem_append.mp hmem with hmem | hmem
          · exact Or.inr ⟨item, hmem, hlarge⟩
          · rw [List.mem_singleton.mp hmem] at hlarge
            rcases hbig path hlarge with hok | hzero
            · exact Or.inl hok
            · exact absurd hzero Record.not_big_zero
      · cases h
        exact ⟨MessageBuffer.Moves.refl _, fun item' path hmem hlarge =>
          Or.inr ⟨item', hmem, hlarge⟩⟩

theorem Shape.read_bounded (hitem : ReadsBounded readItem ok) {shape : Shape}
    {name : String} {l : Locals} {b b' : MessageBuffer} {r g : Record}
    (h : shape.read readItem name l b r = some (b', g)) :
    b.Moves b' ∧ forall path, Record.Big path g -> Record.Big path r ∨
      (path = [name] ∧ shape = Shape.endarray) ∨
      exists below, path = name :: below ∧ ok below := by
  cases shape with
  | simple defaultval =>
      rcases Option.map_eq_some_iff.mp h with ⟨⟨b1, item⟩, hread, heq⟩
      cases heq
      rcases hitem _ _ _ _ hread with ⟨hmoves, hbig⟩
      refine ⟨hmoves, ?_⟩
      intro path hlarge
      rcases Record.big_of_setObject hlarge with
        hlarge | ⟨below, item', hpath, hmem, hlarge⟩
      · exact Or.inl hlarge
      · rw [List.mem_singleton.mp hmem] at hlarge
        rcases hbig below hlarge with hok | hlarge
        · exact Or.inr (Or.inr ⟨below, hpath, hok⟩)
        · exact Or.inl (hpath ▸ Record.big_of_object hlarge)
  | array n =>
      rcases Option.map_eq_some_iff.mp h with ⟨⟨b1, items⟩, hread, heq⟩
      cases heq
      rcases readEach_bounded hitem hread with ⟨hmoves, _, hbig⟩
      refine ⟨hmoves, ?_⟩
      intro path hlarge
      rcases Record.big_of_setObjectArray hlarge with
        hlarge | ⟨below, item', hpath, hmem, hlarge⟩
      · exact Or.inl hlarge
      · rcases hbig item' below hmem hlarge with hok | ⟨item, hmem, hlarge⟩
        · exact Or.inr (Or.inr ⟨below, hpath, hok⟩)
        · rcases List.mem_map.mp hmem with ⟨i, _, hi⟩
          rw [← hi] at hlarge
          exact Or.inl (hpath ▸ Record.big_of_objectArray hlarge)
  | dynarray =>
      rw [read] at h
      rcases hcheck : b.checkAvailableBuffer name (l.size name) with
        ⟨enough, b0⟩
      rw [hcheck] at h
      cases enough with
      | false =>
          cases h
          exact ⟨MessageBuffer.Moves.single
            (MessageBuffer.Move.refused _ _ hcheck), fun _ => Or.inl⟩
      | true =>
          rcases MessageBuffer.checkAvailableBuffer_true hcheck with
            ⟨hsame, _, hsmall, _⟩
          rcases Option.map_eq_some_iff.mp h with ⟨⟨b1, items⟩, hread, heq⟩
          cases heq
          rw [hsame] at hread
          rcases readEach_bounded hitem hread with ⟨hmoves, hlength, hbig⟩
          refine ⟨hmoves, ?_⟩
          intro path hlarge
          rcases Record.big_of_setObjectVector hlarge with
            hlarge | ⟨_, hlong⟩ | ⟨below, item', hpath, hmem, hlarge⟩
          · exact Or.inl hlarge
          · rw [hlength, length_resize_le] at hlong
            exact absurd hlong (Nat.not_le_of_lt hsmall)
          · rcases hbig item' below hmem hlarge with
              hok | ⟨item, hmem, hlarge⟩
            · exact Or.inr (Or.inr ⟨below, hpath, hok⟩)
            · exact Or.inl (hpath ▸ Record.big_of_resized hmem hlarge)
  | endarray =>
      rcases Option.map_eq_some_iff.mp h with ⟨⟨b1, items⟩, hread, heq⟩
      cases heq
      rcases readEndEach_bounded hitem hread with ⟨hmoves, hbig⟩
      refine ⟨hmoves, ?_⟩
      intro path hlarge
      rcases Record.big_of_setObjectVector hlarge with
        hlarge | ⟨hpath, _⟩ | ⟨below, item', hpath, hmem, hlarge⟩
      · exact Or.inl hlarge
      · exact Or.inr (Or.inl ⟨hpath, rfl⟩)
      · rcases hbig item' below hmem hlarge with hok | ⟨item, hmem, hlarge⟩
        · exact Or.inr (Or.inr ⟨below, hpath, hok⟩)
        · exact Or.inl
            (hpath ▸ Or.inr ⟨item, Or.inr (Or.inr hmem), hlarge⟩)

/-!
## Termination

A pass over the objects up to the end of the packet reads something or is the
last one.
-/

/-- An object is read wherever the cursor stands inside the memory. -/
def ReadsAll (readItem : MessageBuffer -> Record ->
    Option (MessageBuffer × Record)) : Prop :=
  forall b item, b.Inside -> exists b' item',
    readItem b item = some (b', item') ∧ b.Moves b'

theorem readEach_total (hitem : ReadsAll readItem) (items : List Record)
    {b : MessageBuffer} (hinside : b.Inside) :
    exists b' items', readEach readItem items b = some (b', items') := by
  induction items generalizing b with
  | nil => exact ⟨b, [], rfl⟩
  | cons item items ih =>
      rcases hitem b item hinside with ⟨b1, first, hfirst, hmoves⟩
      rcases ih (hmoves.inside hinside) with ⟨b2, later, hlater⟩
      refine ⟨b2, first :: later, ?_⟩
      rw [readEach, hfirst, Option.bind_eq_bind, Option.bind_some, hlater]
      rfl

theorem readEndEach_total (hitem : ReadsAll readItem) {fuel : Nat}
    (lastParsedSize : Nat) {b : MessageBuffer} (val : List Record)
    (hinside : b.Inside)
    (hfuel : b.getSize + 1 ≤ fuel + b.p ∨ (0 < fuel ∧ lastParsedSize = b.p)) :
    exists b' val', readEndEach readItem fuel lastParsedSize b val =
      some (b', val') := by
  induction fuel generalizing lastParsedSize b val with
  | zero =>
      have hp : b.p ≤ b.getSize := hinside
      lia
  | succ fuel ih =>
      rw [readEndEach]
      split
      · rename_i hmore
        rw [hinside.getParsedSize] at hmore
        rcases hitem b Record.zero hinside with ⟨b1, next, hnext, hmoves⟩
        rw [hnext, Option.bind_eq_bind, Option.bind_some,
          hinside.getParsedSize]
        refine ih _ _ (hmoves.inside hinside) ?_
        have hsize := hmoves.getSize
        have hle := hmoves.le_p
        lia
      · exact ⟨b, val, rfl⟩

theorem Shape.read_total (hitem : ReadsAll readItem) (shape : Shape)
    (name : String) (l : Locals) {b : MessageBuffer} (r : Record)
    (hinside : b.Inside) :
    exists b' g, shape.read readItem name l b r = some (b', g) := by
  cases shape with
  | simple defaultval =>
      rcases hitem b (r.object name) hinside with ⟨b1, item, hread, _⟩
      rw [read, hread]
      exact ⟨_, _, rfl⟩
  | array n =>
      rcases readEach_total hitem ((List.range n).map (r.objectArray name))
        hinside with ⟨b1, items, hread⟩
      rw [read, hread]
      exact ⟨_, _, rfl⟩
  | dynarray =>
      rw [read]
      rcases hcheck : b.checkAvailableBuffer name (l.size name) with
        ⟨enough, b0⟩
      cases enough with
      | false => exact ⟨_, _, rfl⟩
      | true =>
          rw [(MessageBuffer.checkAvailableBuffer_true hcheck).left]
          rcases readEach_total hitem
            (resize (l.size name) (r.objectVector name)) hinside with
            ⟨b1, items, hread⟩
          simp only [hread, Option.map_some]
          exact ⟨_, _, rfl⟩
  | endarray =>
      have hfuel : b.getSize + 1 ≤ b.getSize + 1 + b.p :=
        Nat.le_add_right _ _
      rcases readEndEach_total hitem (2 ^ 32 - 1)
        (r.objectVector name) hinside (Or.inl hfuel) with ⟨b1, items, hread⟩
      rw [read, hread]
      exact ⟨_, _, rfl⟩

end

/-!
## Packets
-/

namespace Shape

/-- The default object of a field holds a large container. -/
def LargeDefault (path : List String) : Shape -> Prop
  | simple (some defaultval) => Record.Big path defaultval
  | _ => False

theorem copyDefaultValue_bounded {shape : Shape} {name : String}
    {r : Record} {path : List String}
    (h : Record.Big path (shape.copyDefaultValue name r)) :
    Record.Big path r ∨
      exists below, path = name :: below ∧ shape.LargeDefault below := by
  cases shape with
  | simple defaultval =>
      cases defaultval with
      | none => exact Or.inl h
      | some defaultval =>
          rcases Record.big_of_setObject h with
            h | ⟨below, item, hpath, hmem, hlarge⟩
          · exact Or.inl h
          · rw [List.mem_singleton.mp hmem] at hlarge
            exact Or.inr ⟨below, hpath, hlarge⟩
  | array n => exact Or.inl h
  | dynarray => exact Or.inl h
  | endarray => exact Or.inl h

end Shape

namespace Struct

/--
The members that no count fills: the objects up to the end of the packet, and
defaults that are large in the declaration.
-/
def Exempt : Struct -> List String -> Prop
  | nil, _ => False
  | field name _ metatype rest, path =>
      (path = [name] ∧ metatype.LongDefault) ∨ rest.Exempt path
  | object name _ shape type rest, path =>
      (path = [name] ∧ shape = Shape.endarray) ∨
        (exists below, path = name :: below ∧
          (shape.LargeDefault below ∨ type.Exempt below)) ∨
        rest.Exempt path

theorem not_exempt_nil (type : Struct) : ¬type.Exempt [] := by
  induction type with
  | nil => exact id
  | field name cond metatype rest ih =>
      rintro (⟨hpath, -⟩ | hrest)
      · cases hpath
      · exact ih hrest
  | object name cond shape type rest ihtype ihrest =>
      rintro (⟨hpath, -⟩ | ⟨below, hpath, -⟩ | hrest)
      · cases hpath
      · cases hpath
      · exact ihrest hrest

theorem read_bounded {type : Struct} {version : Version} {l : Locals}
    {b b' : MessageBuffer} {r g : Record}
    (h : type.read version l b r = some (b', g)) :
    b.Moves b' ∧ forall path, Record.Big path g ->
      type.Exempt path ∨ Record.Big path r := by
  induction type generalizing l b r b' g with
  | nil =>
      cases h
      exact ⟨MessageBuffer.Moves.refl _, fun _ => Or.inr⟩
  | field name cond metatype rest ih =>
      rw [read] at h
      split at h
      · rw [Option.bind_eq_bind, Option.bind_eq_some_iff] at h
        rcases h with ⟨⟨l1, b1, r1⟩, hread, h⟩
        rcases metatype.read_bounded hread with ⟨hmoves, hbig⟩
        rcases ih h with ⟨hmoves', hbig'⟩
        refine ⟨hmoves.trans hmoves', ?_⟩
        intro path hlarge
        rcases hbig' path hlarge with hexempt | hlarge
        · exact Or.inl (Or.inr hexempt)
        · exact Or.inr (hbig path hlarge)
      · rcases ih h with ⟨hmoves, hbig⟩
        refine ⟨hmoves, ?_⟩
        intro path hlarge
        rcases hbig path hlarge with hexempt | hlarge
        · exact Or.inl (Or.inr hexempt)
        · rcases metatype.copyDefaultValue_bounded hlarge with hlarge | hlong
          · exact Or.inr hlarge
          · exact Or.inl (Or.inl hlong)
  | object name cond shape type rest ihtype ihrest =>
      rw [read] at h
      split at h
      · rw [Option.bind_eq_bind, Option.bind_eq_some_iff] at h
        rcases h with ⟨⟨b1, r1⟩, hread, h⟩
        have hitem : ReadsBounded
            (fun b item => type.read version Locals.initial b item)
            type.Exempt := fun _ _ _ _ hread => ihtype hread
        rcases shape.read_bounded hitem hread with ⟨hmoves, hbig⟩
        rcases ihrest h with ⟨hmoves', hbig'⟩
        refine ⟨hmoves.trans hmoves', ?_⟩
        intro path hlarge
        rcases hbig' path hlarge with hexempt | hlarge
        · exact Or.inl (Or.inr (Or.inr hexempt))
        · rcases hbig path hlarge with hlarge | hend | ⟨below, hpath, hok⟩
          · exact Or.inr hlarge
          · exact Or.inl (Or.inl hend)
          · exact Or.inl (Or.inr (Or.inl ⟨below, hpath, Or.inr hok⟩))
      · rcases ihrest h with ⟨hmoves, hbig⟩
        refine ⟨hmoves, ?_⟩
        intro path hlarge
        rcases hbig path hlarge with hexempt | hlarge
        · exact Or.inl (Or.inr (Or.inr hexempt))
        · rcases shape.copyDefaultValue_bounded hlarge with
            hlarge | ⟨below, hpath, hdefault⟩
          · exact Or.inr hlarge
          · exact Or.inl (Or.inr (Or.inl ⟨below, hpath, Or.inl hdefault⟩))

/-- The fields are read from any place inside the memory. -/
theorem read_total {type : Struct} {version : Version}
    {declared : List String} {l : Locals} {b : MessageBuffer} {r : Record}
    (hdeclared : type.MarkersDeclared declared)
    (hmarkers : forall marker, marker ∈ declared ->
      (l.marker marker).isSome) (hinside : b.Inside) :
    exists b' g, type.read version l b r = some (b', g) := by
  induction type generalizing declared l b r with
  | nil => exact ⟨b, r, rfl⟩
  | field name cond metatype rest ih =>
      rcases hdeclared with ⟨hpad, halways, hrest⟩
      rw [read]
      split
      · rcases metatype.read_total (fun h => hmarkers name (hpad h)) b r with
          ⟨l1, b1, r1, hread, hmarkers'⟩
        rw [hread, Option.bind_eq_bind, Option.bind_some]
        refine ih hrest ?_ ((metatype.read_bounded hread).left.inside hinside)
        intro marker hmem
        rcases List.mem_append.mp hmem with hmem | hmem
        · exact hmarkers' marker (Or.inr hmem)
        · exact hmarkers' marker (Or.inl (hmarkers marker hmem))
      · rename_i hcond
        refine ih hrest ?_ hinside
        intro marker hmem
        have hmarks : metatype.marks name = [] := by
          cases metatype with
          | padmarker => exact absurd (halways rfl version r) hcond
          | _ => rfl
        rw [hmarks] at hmem
        rw [metatype.skip_marker]
        exact hmarkers marker hmem
  | object name cond shape type rest ihtype ihrest =>
      rcases hdeclared with ⟨htype, hrest⟩
      rw [read]
      split
      · have hitem : ReadsAll
            (fun b item => type.read version Locals.initial b item) := by
          intro b item hinside
          have hnone : forall marker, marker ∈ ([] : List String) ->
              (Locals.initial.marker marker).isSome :=
            fun _ hmem => absurd hmem List.not_mem_nil
          rcases ihtype htype hnone hinside with ⟨b1, item', hread⟩
          exact ⟨b1, item', hread, (read_bounded hread).left⟩
        rcases shape.read_total hitem name l r hinside with ⟨b1, r1, hread⟩
        have hbounded : ReadsBounded
            (fun b item => type.read version Locals.initial b item)
            type.Exempt := fun _ _ _ _ hread => read_bounded hread
        rw [hread, Option.bind_eq_bind, Option.bind_some]
        exact ihrest hrest hmarkers
          ((shape.read_bounded hbounded hread).left.inside hinside)
      · exact ihrest hrest hmarkers hinside

theorem read_of_overflow {type : Struct} {version : Version} {l : Locals}
    {b b' : MessageBuffer} {r g : Record}
    (h : type.read version l b r = some (b', g))
    (hoverflow : b.bufferOverflow = true) : b' = b :=
  (read_bounded h).left.eq_of_overflow hoverflow

end Struct

namespace PacketType

/--
Whatever arrives, the packet is deserialized inside its memory.  On the way the
cursor never passes the end of what was received, and it stands still once a
field did not fit.  A large container in the result was there before, or no
count fills it.
-/
theorem deserialize_safe (packet : PacketType)
    (hdeclared : packet.fields.MarkersDeclared []) (version : Version)
    (bytes : List UInt8) (receivedId : Int) (r : Record) :
    (exists b id g,
      packet.deserialize version (MessageBuffer.create bytes) receivedId r =
          some (b, id, g) ∧
        (MessageBuffer.create bytes).Moves b ∧
        forall path, Record.Big path g ->
          packet.fields.Exempt path ∨ Record.Big path r) ∧
      (forall mid, (MessageBuffer.create bytes).Moves mid ->
        mid.buffer = bytes ∧ mid.getParsedSize ≤ mid.getSize) ∧
      forall (rest : Struct) l mid s after g,
        rest.read version l mid s = some (after, g) ->
          mid.Moves after ∧ (mid.bufferOverflow = true -> after = mid) := by
  have hinside : (MessageBuffer.create bytes).Inside := Nat.zero_le _
  refine ⟨?_, ?_, ?_⟩
  · rcases (MessageBuffer.create bytes).readHeader_safe receivedId with
      ⟨b, id, hheader, hmoves⟩
    have hnone : forall marker, marker ∈ ([] : List String) ->
        (Locals.initial.marker marker).isSome :=
      fun _ hmem => absurd hmem List.not_mem_nil
    have htotal : exists b' g, packet.fields.read version Locals.initial b r =
        some (b', g) :=
      Struct.read_total hdeclared hnone (hmoves.inside hinside)
    rcases htotal with ⟨b', g, hread⟩
    rcases Struct.read_bounded hread with ⟨hmoves', hbig⟩
    refine ⟨b', id, g, ?_, hmoves.trans hmoves', hbig⟩
    rw [deserialize, hheader, Option.bind_eq_bind, Option.bind_some,
      Struct.deserialize, hread]
    rfl
  · intro mid hmoves
    have hmid := hmoves.inside hinside
    rw [hmid.getParsedSize]
    exact ⟨hmoves.buffer, hmid⟩
  · intro rest l mid s after g hread
    exact ⟨(Struct.read_bounded hread).left,
      Struct.read_of_overflow hread⟩

/-- A count of 255 elements arrives, and one byte of them. -/
theorem deserialize_safe_list :
    exists b id g,
      listPacket.deserialize 0x070200
          (MessageBuffer.create [9, 0, 0, 0, 208, 0, 217, 255, 1]) 0
          Record.zero = some (b, id, g) ∧
        (MessageBuffer.create [9, 0, 0, 0, 208, 0, 217, 255, 1]).Moves b ∧
        forall path, Record.Big path g ->
          listPacket.fields.Exempt path ∨ Record.Big path Record.zero := by
  have hdeclared : listPacket.fields.MarkersDeclared [] := by
    refine ⟨?_, ?_, ?_, ?_, trivial⟩
    all_goals intro h
    all_goals cases h
  exact (deserialize_safe listPacket hdeclared 0x070200
    [9, 0, 0, 0, 208, 0, 217, 255, 1] 0 Record.zero).left

end PacketType

end Packet
end Rzu
