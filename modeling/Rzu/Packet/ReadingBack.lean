import Rzu.Packet.AnnouncedSize
import Rzu.Packet.Overwrite

/-!
# Reading a layout back

What the fields of a packet read when the bytes that were written lie ahead of
the cursor.
-/

namespace Rzu
namespace Packet

open Library

/-!
## Values in range
-/

/-- Both the type on the wire and that of the member hold the value. -/
def Fits (T U : IntType) (val : Int) : Prop := T.Fits val ∧ U.Fits val

/-- The value of a field can be sent. -/
def Metatype.InRange (name : String) (r : Record) : Metatype -> Prop
  | simple type member _ => Fits type member (r.integer name)
  | array type member n _ =>
      forall i, i < n -> Fits type member (r.array name i)
  | dynarray type member =>
      forall val, val ∈ r.vector name -> Fits type member val
  | count type ref _ => type.size ≤ 4 ∧ ref.size r name ≤ type.max
  | string n _ => (r.string name).length < n ∧ 0 ∉ r.string name
  | _ => True

def Shape.isDynarray : Shape -> Bool
  | dynarray => true
  | _ => false

/--
Every active field can be sent.  Dynamic arrays hold less than 65536 objects,
of at least one byte each.
-/
def Struct.InRange (version : Version) : Struct -> Record -> Prop
  | nil, _ => True
  | field name cond metatype rest, r =>
      (cond version r = true -> metatype.InRange name r) ∧
        rest.InRange version r
  | object name cond shape type rest, r =>
      (cond version r = true ->
        (forall item, item ∈ shape.items name r ->
          type.InRange version item) ∧
        (shape.isDynarray = true ->
          (shape.items name r).length < 65536 ∧
          forall item, item ∈ shape.items name r ->
            forall chunks,
              type.layout version item Locals.initial 0 = some chunks ->
                0 < chunks.flatten.length)) ∧
        rest.InRange version r

/-!
## Counts
-/

structure DeclaredCount where
  name : String
  ref : Container
  cond : Condition

namespace Metatype

def counts (name : String) (cond : Condition) :
    Metatype -> List DeclaredCount
  | count _ ref _ => [⟨name, ref, cond⟩]
  | _ => []

/-- The count that a dynamic field relies on. -/
def reliesOn (name : String) (cond : Condition) :
    Metatype -> Option DeclaredCount
  | dynarray _ _ => some ⟨name, Container.vector, cond⟩
  | dynstring hasNullTerminator _ =>
      some ⟨name, Container.string hasNullTerminator, cond⟩
  | _ => none

end Metatype

/--
Every dynamic field has one count, earlier in the same struct and under the
same condition.
-/
def Struct.CountsMatch : Struct -> List DeclaredCount -> Prop
  | nil, _ => True
  | field name cond metatype rest, seen =>
      (forall c, metatype.reliesOn name cond = some c -> c ∈ seen) ∧
        (forall c, c ∈ metatype.counts name cond ->
          forall c', c' ∈ seen -> c'.name ≠ c.name) ∧
        rest.CountsMatch (metatype.counts name cond ++ seen)
  | object name cond shape type rest, seen =>
      (shape.isDynarray = true ->
        ⟨name, Container.objectVector, cond⟩ ∈ seen) ∧
        type.CountsMatch [] ∧ rest.CountsMatch seen

def InForce (version : Version) (r : Record) (l : Locals)
    (seen : List DeclaredCount) : Prop :=
  forall c, c ∈ seen -> c.cond version r = true ->
    l.size c.name = c.ref.size r c.name

theorem fits_uint32 {T : IntType} {n : Nat} (hsize : T.size ≤ 4)
    (h : n ≤ T.max) : uint32.Fits n := by
  have hpow := Nat.pow_le_pow_right (n := 256) (by decide) hsize
  have hmodulus : uint32.modulus = 256 ^ 4 := rfl
  have hmax : T.max < 256 ^ T.size := by
    have hpos := Nat.pow_pos (n := T.size) (show 0 < 256 by decide)
    rw [IntType.max]
    split
    · lia
    · lia
  have hunsigned : ¬uint32.signed = true := Bool.false_ne_true
  rw [IntType.Fits, if_neg hunsigned, hmodulus]
  lia

theorem getClampedCount_eq {T : IntType} {n : Nat} (h : n ≤ T.max) :
    getClampedCount T n = n := by
  rw [getClampedCount]
  split
  · rfl
  · lia

section Counts

variable {version : Version} {r : Record} {l : Locals}
variable {seen : List DeclaredCount} {metatype : Metatype} {name : String}
variable {cond : Condition}

theorem InForce.declare (h : InForce version r l seen)
    (hfresh : forall c, c ∈ metatype.counts name cond ->
      forall c', c' ∈ seen -> c'.name ≠ c.name)
    (hrange : metatype.InRange name r) :
    InForce version r (metatype.declare name r l)
      (metatype.counts name cond ++ seen) := by
  intro c hc hactive
  cases metatype with
  | count type ref defaultval =>
      rcases List.mem_cons.mp hc with heq | hseen
      · subst heq
        rw [Metatype.declare, getClampedCount_eq hrange.right]
        exact Function.update_self _ _ _
      · have hne := hfresh ⟨name, ref, cond⟩ List.mem_cons_self c hseen
        exact (Function.update_of_ne hne _ _).trans (h c hseen hactive)
  | simple | array | dynarray | string | dynstring | padmarker | pad
  | endstring | endarray => exact h c hc hactive

theorem InForce.skip (h : InForce version r l seen)
    (hfresh : forall c, c ∈ metatype.counts name cond ->
      forall c', c' ∈ seen -> c'.name ≠ c.name)
    (hinactive : ¬cond version r = true) :
    InForce version r (metatype.skip name l)
      (metatype.counts name cond ++ seen) := by
  intro c hc hactive
  cases metatype with
  | count type ref defaultval =>
      rcases List.mem_cons.mp hc with heq | hseen
      · subst heq
        exact absurd hactive hinactive
      · have hne := hfresh ⟨name, ref, cond⟩ List.mem_cons_self c hseen
        have hold := h c hseen hactive
        cases defaultval with
        | none => exact hold
        | some defaultval => exact (Function.update_of_ne hne _ _).trans hold
  | simple | array | dynarray | string | dynstring | padmarker | pad
  | endstring | endarray => exact h c hc hactive

theorem InForce.dynarray {T U : IntType} (h : InForce version r l seen)
    (hcount : forall c, (Metatype.dynarray T U).reliesOn name cond = some c ->
      c ∈ seen) (hactive : cond version r = true) :
    l.size name = (r.vector name).length :=
  h _ (hcount _ rfl) hactive

theorem InForce.dynstring {hasNullTerminator : Bool}
    {defaultval : Option CharString} (h : InForce version r l seen)
    (hcount : forall c, (Metatype.dynstring hasNullTerminator
      defaultval).reliesOn name cond = some c -> c ∈ seen)
    (hactive : cond version r = true) :
    l.size name = (r.string name).length + hasNullTerminator.toNat :=
  h _ (hcount _ rfl) hactive

end Counts

theorem Struct.haveRoom_of_inRange {version : Version} {type : Struct}
    {r : Record} (hrange : type.InRange version r) :
    type.HaveRoom version r := by
  induction type generalizing r with
  | nil => trivial
  | field name cond metatype rest ih =>
      refine ⟨?_, ih hrange.right⟩
      intro hactive
      cases metatype with
      | string n defaultval =>
          exact Nat.lt_of_le_of_lt (Nat.zero_le _) (hrange.left hactive).left
      | simple | array | dynarray | count | dynstring | padmarker | pad
      | endstring | endarray => trivial
  | object name cond shape type rest ihtype ihrest =>
      refine ⟨?_, ihrest hrange.right⟩
      intro hactive item hitem
      exact ihtype ((hrange.left hactive).left item hitem)

/-!
## Bytes ahead of the cursor
-/

namespace MessageBuffer

/-- These bytes are to be read next. -/
structure Ahead (b : MessageBuffer) (bytes : List UInt8) : Prop where
  room : b.Room bytes.length
  data : exists rest, b.buffer.drop b.p = bytes ++ rest

variable {b : MessageBuffer} {bytes xs ys : List UInt8}

theorem Ahead.front (h : b.Ahead (xs ++ ys)) : b.Ahead xs where
  room := by
    have hroom := h.room
    rw [List.length_append] at hroom
    exact hroom.mono (Nat.le_add_right _ _)
  data := by
    rcases h.data with ⟨rest, hrest⟩
    exact ⟨ys ++ rest, by rw [hrest, List.append_assoc]⟩

theorem Ahead.back (h : b.Ahead (xs ++ ys)) :
    (b.advance xs.length).Ahead ys where
  room := {
    clean := h.room.clean
    fits := by
      have hfits := h.room.fits
      rw [List.length_append] at hfits
      change b.p + xs.length + ys.length ≤ b.getSize
      lia }
  data := by
    rcases h.data with ⟨rest, hrest⟩
    refine ⟨rest, ?_⟩
    change b.buffer.drop (b.p + xs.length) = ys ++ rest
    rw [← List.drop_drop, hrest, List.append_assoc, List.drop_left]

theorem Ahead.load (h : b.Ahead bytes) {n : Nat} (hn : n ≤ bytes.length) :
    b.load n = some (bytes.take n) := by
  rcases h.data with ⟨rest, hrest⟩
  have hinside := h.room.inside
  rw [MessageBuffer.load, if_pos (by lia), hrest,
    List.take_append_of_le_length hn]

theorem Ahead.load_all (h : b.Ahead bytes) :
    b.load bytes.length = some bytes := by
  rw [h.load (Nat.le_refl _), List.take_length]

theorem advance_advance (b : MessageBuffer) (m n : Nat) :
    (b.advance m).advance n = b.advance (m + n) := by
  rw [advance, advance, advance, Nat.add_assoc]

theorem advance_zero (b : MessageBuffer) : b.advance 0 = b := rfl

theorem Ahead.check (h : b.Ahead bytes) (hsmall : bytes.length < 65536)
    (fieldName : String) {n : Nat} (hn : n = bytes.length) :
    b.checkAvailableBuffer fieldName n = (true, b) := by
  subst hn
  exact checkAvailableBuffer_room h.room hsmall fieldName

theorem convert_encode {T U : IntType} {val : Int} (h : Fits T U val) :
    convert T U (T.encode val) = val := by
  rw [convert, IntType.decode_encode h.left, IntType.cast_eq h.right]

theorem slice_flatMap (T : IntType) {val : List Int} {i : Nat}
    (hi : i < val.length) :
    slice T (val.flatMap T.encode) i = T.encode val[i] := by
  induction val generalizing i with
  | nil => cases hi
  | cons first rest ih =>
      have hfirst : (T.encode first).length = T.size :=
        IntType.encode_length _ _
      cases i with
      | zero =>
          rw [slice, Nat.zero_mul, List.drop_zero, List.flatMap_cons,
            List.take_left' hfirst]
          rfl
      | succ i =>
          rw [slice, Nat.succ_mul, Nat.add_comm, ← List.drop_drop,
            List.flatMap_cons, List.drop_left' hfirst]
          exact ih (Nat.lt_of_succ_lt_succ hi)

theorem slice_array (T : IntType) (val : Nat -> Int) {n i : Nat}
    (hi : i < n) :
    slice T ((List.range n).flatMap fun i => T.encode (val i)) i =
      T.encode (val i) := by
  have hi' : i < ((List.range n).map val).length := by simpa using hi
  have hmap := slice_flatMap T hi'
  rw [List.flatMap_map] at hmap
  simpa using hmap

theorem readDynArray_ahead {T U : IntType} {val : List Int}
    (hrange : forall x, x ∈ val -> Fits T U x)
    (h : b.Ahead (val.flatMap T.encode))
    (hsmall : (val.flatMap T.encode).length < 65536) (fieldName : String) :
    b.readDynArray T U fieldName val.length =
      some (b.advance (val.flatMap T.encode).length, val) := by
  have hlength := flatMap_encode_length T val
  rw [readDynArray]
  split
  · rename_i hzero
    have hpos := T.positive
    have hnil : val = [] := by
      rcases Nat.mul_eq_zero.mp hzero with hsize | hval
      · lia
      · exact List.length_eq_zero_iff.mp hval
    subst hnil
    rfl
  · have hload := h.load_all
    rw [hlength] at hload ⊢
    rw [h.check hsmall fieldName hlength.symm]
    simp only [hload, Option.bind_eq_bind, Option.bind_some,
      Option.pure_def]
    congr 2
    apply List.ext_getElem
    · simp
    · intro i hi hi'
      rw [List.getElem_map, List.getElem_range, slice_flatMap T hi',
        convert_encode (hrange _ (List.getElem_mem hi'))]

theorem readDynString_ahead {val : CharString} {hasNullTerminator : Bool}
    (h : b.Ahead ((val ++ [0]).take (val.length + hasNullTerminator.toNat)))
    (hsmall : ((val ++ [0]).take
      (val.length + hasNullTerminator.toNat)).length < 65536)
    (fieldName : String) (old : CharString) :
    b.readDynString fieldName old (val.length + hasNullTerminator.toNat)
        hasNullTerminator =
      some (b.advance ((val ++ [0]).take
        (val.length + hasNullTerminator.toNat)).length, val) := by
  have hnul := Bool.toNat_le hasNullTerminator
  have hlength : ((val ++ [0]).take
      (val.length + hasNullTerminator.toNat)).length =
        val.length + hasNullTerminator.toNat :=
    List.length_take_of_le (by
      rw [List.length_append, List.length_singleton]
      lia)
  have hload := h.load (n := val.length) (by lia)
  rw [List.take_take, Nat.min_eq_left (Nat.le_add_right _ _),
    List.take_left] at hload
  rw [readDynString, h.check hsmall fieldName hlength.symm,
    Nat.add_sub_cancel, hlength]
  simp only [hload, Option.bind_eq_bind, Option.bind_some, Option.pure_def]
  split
  · rename_i hzero
    have hnil : val = [] := List.length_eq_zero_iff.mp (by lia)
    rw [hnil]
  · rfl

theorem takeWhile_terminated {val : CharString} (h : 0 ∉ val) (n : Nat) :
    (val ++ List.replicate n 0).takeWhile (· ≠ 0) = val := by
  have hval : forall c, c ∈ val -> (decide (c ≠ 0)) = true := by
    intro c hc
    simp only [ne_eq, decide_eq_true_eq]
    intro hzero
    subst hzero
    exact h hc
  rw [List.takeWhile_append_of_pos hval]
  cases n with
  | zero => simp
  | succ n => simp [List.replicate_succ]

end MessageBuffer

/-- The size of a pad depends on the lengths of these vectors only. -/
def Metatype.PadKnown (vectors objectVectors : List String) :
    Metatype -> Prop
  | pad n => forall g g' : Record,
      (forall name, name ∈ vectors ->
        (g.vector name).length = (g'.vector name).length) ->
      (forall name, name ∈ objectVectors ->
        (g.objectVector name).length = (g'.objectVector name).length) ->
      n g = n g'
  | _ => True

def Metatype.vectorsRead (name : String) : Metatype -> List String
  | dynarray _ _ => [name]
  | _ => []

def Shape.vectorsRead (name : String) : Shape -> List String
  | dynarray => [name]
  | _ => []

/--
The size of every pad is a constant, or depends on the lengths of dynamic
arrays that were read before it.
-/
def Struct.PadsKnown (version : Version) :
    Struct -> Record -> List String -> List String -> Prop
  | nil, _, _, _ => True
  | field name cond metatype rest, r, vectors, objectVectors =>
      if cond version r then
        metatype.PadKnown vectors objectVectors ∧
          rest.PadsKnown version r (metatype.vectorsRead name ++ vectors)
            objectVectors
      else rest.PadsKnown version r vectors objectVectors
  | object name cond shape type rest, r, vectors, objectVectors =>
      if cond version r then
        (forall item, item ∈ shape.items name r ->
          type.PadsKnown version item [] []) ∧
          rest.PadsKnown version r vectors
            (shape.vectorsRead name ++ objectVectors)
      else rest.PadsKnown version r vectors objectVectors

structure LengthsRead (r g : Record) (vectors objectVectors : List String) :
    Prop where
  vector : forall name, name ∈ vectors ->
    (g.vector name).length = (r.vector name).length
  objectVector : forall name, name ∈ objectVectors ->
    (g.objectVector name).length = (r.objectVector name).length

namespace Metatype

open MessageBuffer

variable {name : String} {r g : Record} {l l' : Locals} {offset : Nat}
variable {bytes : List UInt8}

theorem layout_size {metatype : Metatype}
    (h : metatype.layout name r l offset = some (l', bytes)) :
    l'.size = (metatype.declare name r l).size := by
  cases metatype with
  | dynarray | string | dynstring =>
      rw [layout] at h
      split at h
      all_goals cases h
      all_goals rfl
  | pad n =>
      rcases Option.map_eq_some_iff.mp h with ⟨marker, -, hpair⟩
      cases hpair
      rfl
  | simple | array | count | padmarker | endstring | endarray =>
      cases h
      rfl

theorem read_layout {metatype : Metatype} {b : MessageBuffer} {start : Nat}
    (h : metatype.layout name r l offset = some (l', bytes))
    (hbounded : metatype.isBounded = true)
    (hrange : metatype.InRange name r)
    (hvector : forall T U, metatype = dynarray T U ->
      l.size name = (r.vector name).length)
    (hstring : forall hasNullTerminator defaultval,
      metatype = dynstring hasNullTerminator defaultval ->
        l.size name = (r.string name).length + hasNullTerminator.toNat)
    (hpad : forall n, metatype = pad n -> n g = n r)
    (hahead : b.Ahead bytes) (hsmall : bytes.length < 65536)
    (hp : b.p = offset + start) :
    metatype.read name (l.shift start) b g =
      some (l'.shift start, b.advance bytes.length,
        metatype.restore name r g) := by
  cases metatype with
  | simple type member defaultval =>
      cases h
      have hlength := IntType.encode_length type (r.integer name)
      have hload := hahead.load_all
      rw [hlength] at hload ⊢
      rw [read, MessageBuffer.read, hahead.check hsmall name hlength.symm]
      simp only [hload, Option.bind_eq_bind, Option.bind_some,
        Option.pure_def, Option.map_some, convert_encode hrange]
      rfl
  | array type member n defaultval =>
      cases h
      have hlength := array_encode_length type (r.array name) n
      have hload := hahead.load_all
      rw [hlength] at hload ⊢
      rw [read, readArray, hahead.check hsmall name hlength.symm]
      simp only [hload, Option.bind_eq_bind, Option.bind_some,
        Option.pure_def, Option.map_some, restore]
      congr 4
      funext i
      split
      · rename_i hi
        rw [slice_array type (r.array name) hi, convert_encode (hrange i hi)]
      · rfl
  | dynarray type member =>
      have hcount := hvector type member rfl
      rw [layout, hcount, if_pos (Nat.le_refl _), List.take_length] at h
      cases h
      rw [read, Locals.shift_size, hcount,
        readDynArray_ahead hrange hahead hsmall, Option.map_some]
      rfl
  | count type ref defaultval =>
      cases h
      have hclamped := getClampedCount_eq hrange.right
      have hlength := IntType.encode_length type
        (getClampedCount type (ref.size r name))
      have hfits : Fits type uint32 (getClampedCount type
          (ref.size r name)) := by
        rw [hclamped]
        exact ⟨IntType.fits_of_le_max hrange.right,
          fits_uint32 hrange.left hrange.right⟩
      have hload := hahead.load_all
      rw [hlength] at hload ⊢
      rw [read, readSize, MessageBuffer.read,
        hahead.check hsmall name hlength.symm]
      simp only [hload, Option.bind_eq_bind, Option.bind_some,
        Option.pure_def, Option.map_some, convert_encode hfits,
        Int.toNat_natCast]
      rfl
  | string n defaultval =>
      have hfits : ¬(n = 0 ∧ r.string name ≠ []) := by
        intro hboth
        have hlt := hrange.left
        lia
      rw [layout, if_neg hfits] at h
      cases h
      have hlength := string_layout_length hfits
      have hlt := hrange.left
      have htake : (r.string name).take (n - 1) = r.string name :=
        List.take_of_length_le (by lia)
      rw [htake] at hlength hahead hsmall ⊢
      rw [read, readString, hahead.check hsmall name hlength.symm]
      have hload := hahead.load (n := n - 1) (by lia)
      rw [List.take_append, List.take_of_length_le (by lia),
        List.take_replicate] at hload
      simp only [hload, Option.bind_eq_bind, Option.bind_some,
        Option.pure_def, Option.map_some, hlength]
      rw [takeWhile_terminated hrange.right]
      rfl
  | dynstring hasNullTerminator defaultval =>
      have hcount := hstring hasNullTerminator defaultval rfl
      have hnul := Bool.toNat_le hasNullTerminator
      rw [layout, if_pos (by lia)] at h
      cases h
      rw [hcount] at hahead hsmall ⊢
      rw [read, Locals.shift_size, hcount,
        readDynString_ahead hahead hsmall, Option.map_some]
      rfl
  | padmarker =>
      cases h
      rw [read, hahead.room.getParsedSize, hp, Locals.shift_setMarker]
      rfl
  | pad n =>
      rcases Option.map_eq_some_iff.mp h with ⟨marker, hmarker, hpair⟩
      cases hpair
      have hfits := hahead.room.fits
      rw [List.length_replicate] at hfits
      have hlt := b.getSize_lt
      have htarget : add32 (marker + start) (n g) = marker + start + n r := by
        rw [hpad n rfl]
        exact Nat.mod_eq_of_lt (by lia)
      simp only [read, Locals.shift, hmarker, Option.map_some,
        Option.bind_eq_bind, Option.bind_some, Option.pure_def, htarget,
        hahead.room.getParsedSize, List.length_replicate, restore]
      split
      · have hlength : marker + start + n r - b.p =
            marker + n r - offset := by lia
        rw [hlength, MessageBuffer.discard,
          hahead.check hsmall _ List.length_replicate.symm]
      · have hzero : marker + n r - offset = 0 := by lia
        rw [hzero, advance_zero]
  | endstring hasNullTerminator defaultval => cases hbounded
  | endarray type member => cases hbounded

end Metatype

/-!
## Objects that lie ahead
-/

open MessageBuffer

theorem readEach_layout
    {readItem : MessageBuffer -> Record -> Option (MessageBuffer × Record)}
    {layoutOf : Record -> Option (List (List UInt8))}
    {overwrite : Record -> Record -> Record} {items : List Record}
    (hitem : forall b item old chunks, item ∈ items ->
      layoutOf item = some chunks -> Struct.Short chunks ->
        b.Ahead chunks.flatten ->
          readItem b old =
            some (b.advance chunks.flatten.length, overwrite item old))
    {objects : List (List (List UInt8))}
    (h : items.mapM layoutOf = some objects)
    (hshort : Struct.Short objects.flatten) {olds : List Record}
    (hlength : olds.length = items.length) {b : MessageBuffer}
    (hahead : b.Ahead objects.flatten.flatten) :
    readEach readItem olds b =
      some (b.advance objects.flatten.flatten.length,
        overwriteEach overwrite items olds) := by
  induction items generalizing objects olds b with
  | nil =>
      cases h
      rw [List.length_eq_zero_iff.mp hlength]
      rfl
  | cons item items ih =>
      cases olds with
      | nil => cases hlength
      | cons old olds =>
          rw [List.mapM_cons] at h
          rcases Option.bind_eq_some_iff.mp h with ⟨first, hfirst, hrest⟩
          rcases Option.bind_eq_some_iff.mp hrest with
            ⟨later, hlater, hpair⟩
          cases hpair
          rw [List.flatten_cons] at hshort
          rw [List.flatten_cons, List.flatten_append] at hahead ⊢
          have hread := hitem b item old first List.mem_cons_self hfirst
            (fun chunk hchunk =>
              hshort chunk (List.mem_append_left _ hchunk)) hahead.front
          have hrest := ih
            (fun b item old chunks hmem =>
              hitem b item old chunks (List.mem_cons_of_mem _ hmem))
            hlater
            (fun chunk hchunk =>
              hshort chunk (List.mem_append_right _ hchunk))
            (Nat.succ.inj hlength) hahead.back
          rw [readEach, hread, Option.bind_eq_bind, Option.bind_some, hrest,
            Option.bind_eq_bind, Option.bind_some, overwriteEach,
            advance_advance, List.length_append]
          rfl

theorem length_le_of_nonempty
    {layoutOf : Record -> Option (List (List UInt8))} {items : List Record}
    (hitem : forall item, item ∈ items -> forall chunks,
      layoutOf item = some chunks -> 0 < chunks.flatten.length)
    {objects : List (List (List UInt8))}
    (h : items.mapM layoutOf = some objects) :
    items.length ≤ objects.flatten.flatten.length := by
  induction items generalizing objects with
  | nil => exact Nat.zero_le _
  | cons item items ih =>
      rw [List.mapM_cons] at h
      rcases Option.bind_eq_some_iff.mp h with ⟨first, hfirst, hrest⟩
      rcases Option.bind_eq_some_iff.mp hrest with ⟨later, hlater, hpair⟩
      cases hpair
      have hpos := hitem item List.mem_cons_self first hfirst
      have hrest := ih
        (fun item hmem => hitem item (List.mem_cons_of_mem _ hmem)) hlater
      rw [List.flatten_cons, List.flatten_append, List.length_append,
        List.length_cons]
      lia

namespace LengthsRead

variable {r g : Record} {vectors objectVectors : List String}

theorem restore (h : LengthsRead r g vectors objectVectors)
    (metatype : Metatype) (name : String) :
    LengthsRead r (metatype.restore name r g)
      (metatype.vectorsRead name ++ vectors) objectVectors := by
  cases metatype with
  | dynarray type member =>
      refine ⟨?_, h.objectVector⟩
      intro other hmem
      by_cases heq : other = name
      · subst heq
        simp [Metatype.restore, Record.setVector]
      · simp only [Metatype.restore, Record.setVector,
          Function.update_of_ne heq]
        exact h.vector other ((List.mem_cons.mp hmem).resolve_left heq)
  | endarray type member =>
      refine ⟨?_, h.objectVector⟩
      intro other hmem
      by_cases heq : other = name
      · subst heq
        simp [Metatype.restore, Record.setVector]
      · simp only [Metatype.restore, Record.setVector,
          Function.update_of_ne heq]
        exact h.vector other hmem
  | simple | array | count | string | dynstring | padmarker | pad
  | endstring => exact ⟨h.vector, h.objectVector⟩

theorem copyDefaultValue (h : LengthsRead r g vectors objectVectors)
    (metatype : Metatype) (name : String) :
    LengthsRead r (metatype.copyDefaultValue name g) vectors
      objectVectors := by
  unfold Metatype.copyDefaultValue
  split
  all_goals exact ⟨h.vector, h.objectVector⟩

theorem copyDefaultObject (h : LengthsRead r g vectors objectVectors)
    (shape : Shape) (name : String) :
    LengthsRead r (shape.copyDefaultValue name g) vectors
      objectVectors := by
  unfold Shape.copyDefaultValue
  split
  all_goals exact ⟨h.vector, h.objectVector⟩

theorem restoreObjects (h : LengthsRead r g vectors objectVectors)
    {shape : Shape} (hbounded : shape.isBounded = true) (name : String)
    (overwrite : Record -> Record -> Record) :
    LengthsRead r (shape.restore overwrite name r g) vectors
      (shape.vectorsRead name ++ objectVectors) := by
  cases shape with
  | dynarray =>
      refine ⟨h.vector, ?_⟩
      intro other hmem
      rw [Shape.restore, Record.objectVector_setObjectVector]
      split
      · rename_i heq
        subst heq
        exact overwriteEach_length overwrite (resize_length _ _).symm
      · rename_i hne
        exact h.objectVector other ((List.mem_cons.mp hmem).resolve_left hne)
  | simple | array => exact ⟨h.vector, h.objectVector⟩
  | endarray => cases hbounded

theorem padKnown (h : LengthsRead r g vectors objectVectors)
    {metatype : Metatype} (hknown : metatype.PadKnown vectors objectVectors)
    (n : Record -> Nat) (hpad : metatype = Metatype.pad n) : n g = n r := by
  subst hpad
  exact hknown g r h.vector h.objectVector

end LengthsRead

theorem read_object
    {readItem : MessageBuffer -> Record -> Option (MessageBuffer × Record)}
    {layoutOf : Record -> Option (List (List UInt8))}
    {overwrite : Record -> Record -> Record} {shape : Shape}
    {name : String} {r g : Record}
    (hitem : forall b item old chunks, item ∈ shape.items name r ->
      layoutOf item = some chunks -> Struct.Short chunks ->
        b.Ahead chunks.flatten ->
          readItem b old =
            some (b.advance chunks.flatten.length, overwrite item old))
    {objects : List (List (List UInt8))}
    (h : (shape.items name r).mapM layoutOf = some objects)
    (hshort : Struct.Short objects.flatten) {b : MessageBuffer}
    (hahead : b.Ahead objects.flatten.flatten)
    (hbounded : shape.isBounded = true) (l : Locals)
    (hcount : shape.isDynarray = true ->
      l.size name = (r.objectVector name).length)
    (hsmall : shape.isDynarray = true ->
      (shape.items name r).length < 65536)
    (hnonempty : shape.isDynarray = true ->
      forall item, item ∈ shape.items name r -> forall chunks,
        layoutOf item = some chunks -> 0 < chunks.flatten.length) :
    shape.read readItem name l b g =
      some (b.advance objects.flatten.flatten.length,
        shape.restore overwrite name r g) := by
  cases shape with
  | simple defaultval =>
      have hread := readEach_layout hitem h hshort
        (show [g.object name].length = 1 from rfl) hahead
      rw [readEach] at hread
      rcases Option.bind_eq_some_iff.mp hread with ⟨first, hfirst, hpair⟩
      rcases Prod.ext_iff.mp (Option.some.inj hpair) with ⟨hb, hval⟩
      have hb' : first.1 = b.advance objects.flatten.flatten.length := hb
      have hval' : first.2 = overwrite (r.object name) (g.object name) :=
        List.head_eq_of_cons_eq hval
      rw [Shape.read, hfirst, Option.map_some, hb', hval']
      rfl
  | array n =>
      have hlength : ((List.range n).map (g.objectArray name)).length =
          ((List.range n).map (r.objectArray name)).length := by
        rw [List.length_map, List.length_map]
      rw [Shape.read, readEach_layout hitem h hshort hlength hahead]
      rfl
  | dynarray =>
      have hle := length_le_of_nonempty (hnonempty rfl) h
      have hroom : b.Room (r.objectVector name).length :=
        hahead.room.mono hle
      have hread : readEach readItem
          (resize (r.objectVector name).length (g.objectVector name)) b =
            some (b.advance objects.flatten.flatten.length,
              overwriteEach overwrite (r.objectVector name)
                (resize (r.objectVector name).length
                  (g.objectVector name))) :=
        readEach_layout hitem h hshort (resize_length _ _) hahead
      rw [Shape.read, hcount rfl,
        checkAvailableBuffer_room hroom (hsmall rfl) name]
      change Option.map _ (readEach readItem _ b) = _
      rw [hread]
      rfl
  | endarray => cases hbounded

namespace Struct

variable {version : Version}

/--
A condition is the same in what has been read so far as in what was written.
Objects are read into whatever was there.
-/
def SameConditions (version : Version) : Struct -> Record -> Record -> Prop
  | nil, _, _ => True
  | field name cond metatype rest, r, g =>
      cond version g = cond version r ∧
        rest.SameConditions version r
          (if cond version r then metatype.restore name r g
            else metatype.copyDefaultValue name g)
  | object name cond shape type rest, r, g =>
      cond version g = cond version r ∧
        (cond version r = true -> forall item, item ∈ shape.items name r ->
          forall old, type.SameConditions version item old) ∧
        rest.SameConditions version r
          (if cond version r then
            shape.restore (fun r g => type.overwrite version r g) name r g
            else shape.copyDefaultValue name g)

theorem VersionConditions.same {type : Struct} (h : type.VersionConditions)
    (version : Version) (r g : Record) : type.SameConditions version r g := by
  induction type generalizing r g with
  | nil => trivial
  | field name cond metatype rest ih =>
      exact ⟨h.left version g r, ih h.right _ _⟩
  | object name cond shape type rest ihtype ihrest =>
      exact ⟨h.left version g r, fun _ item _ old =>
        ihtype h.right.left item old, ihrest h.right.right _ _⟩

theorem SameConditions.active {name : String} {cond : Condition}
    {metatype : Metatype} {rest : Struct} {r g : Record}
    (hwritten : cond version r = true) (hread : cond version g = true)
    (h : rest.SameConditions version r (metatype.restore name r g)) :
    (field name cond metatype rest).SameConditions version r g := by
  refine ⟨hread.trans hwritten.symm, ?_⟩
  rw [if_pos hwritten]
  exact h

end Struct

end Packet
end Rzu
