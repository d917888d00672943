import Rzu.Packet.TrailingFields

/-!
# The fields before the last one

Deserialization consumes the bounded fields in front of a field that extends
to the end of the packet, whatever their values are.
-/

namespace Rzu
namespace Packet

open Library MessageBuffer

/-!
## Sizes that fit
-/

/-- A field that takes as many bytes as it announces. -/
def Metatype.SizeFits : Metatype -> Prop
  | count type _ _ => type.size ≤ 4
  | string n _ => 0 < n
  | _ => True

/--
The sizes of the active fields can be read.  Dynamic arrays hold less than
65536 objects, of at least one byte each.
-/
def Struct.SizesFit (version : Version) : Struct -> Record -> Prop
  | nil, _ => True
  | field _ cond metatype rest, r =>
      (cond version r = true -> metatype.SizeFits) ∧ rest.SizesFit version r
  | object name cond shape type rest, r =>
      (cond version r = true ->
        (forall item, item ∈ shape.items name r ->
          type.SizesFit version item) ∧
        (shape.isDynarray = true ->
          (shape.items name r).length < 65536 ∧
          forall item, item ∈ shape.items name r ->
            forall chunks,
              type.layout version item Locals.initial 0 = some chunks ->
                0 < chunks.flatten.length)) ∧
        rest.SizesFit version r

theorem Struct.SizesFit.haveRoom {version : Version} {type : Struct}
    {r : Record} (h : type.SizesFit version r) : type.HaveRoom version r := by
  induction type generalizing r with
  | nil => trivial
  | field name cond metatype rest ih =>
      refine ⟨?_, ih h.right⟩
      intro hactive
      cases metatype with
      | string n defaultval => exact h.left hactive
      | simple | array | dynarray | count | dynstring | padmarker | pad
      | endstring | endarray => trivial
  | object name cond shape type rest ihtype ihrest =>
      refine ⟨?_, ihrest h.right⟩
      intro hactive item hitem
      exact ihtype ((h.left hactive).left item hitem)

/-!
## What a line assigns
-/

/-- The member of a bounded field is assigned something. -/
def Metatype.Assigns (name : String) (r g g' : Record) : Metatype -> Prop
  | simple _ _ _ => exists val, g' = g.setInteger name val
  | array _ _ _ _ => exists val, g' = g.setArray name val
  | dynarray _ _ => exists val, val.length = (r.vector name).length ∧
      g' = g.setVector name val
  | string _ _ => exists val, g' = g.setString name val
  | dynstring _ _ => exists val, g' = g.setString name val
  | count _ _ _ => g' = g
  | padmarker => g' = g
  | pad _ => g' = g
  | endstring _ _ => False
  | endarray _ _ => False

def Shape.Assigns (name : String) (r g g' : Record) : Shape -> Prop
  | simple _ => exists val, g' = g.setObject name val
  | array _ => exists val, g' = g.setObjectArray name val
  | dynarray => exists val, val.length = (r.objectVector name).length ∧
      g' = g.setObjectVector name val
  | endarray => False

section Assigns

variable {r g g' : Record} {vectors objectVectors : List String}
variable {name : String}

theorem LengthsRead.assign (h : LengthsRead r g vectors objectVectors)
    {metatype : Metatype} (hassigns : metatype.Assigns name r g g') :
    LengthsRead r g' (metatype.vectorsRead name ++ vectors)
      objectVectors := by
  cases metatype with
  | dynarray type member =>
      rcases hassigns with ⟨val, hlength, heq⟩
      subst heq
      refine ⟨?_, h.objectVector⟩
      intro other hmem
      rw [Record.vector_setVector]
      split
      · rename_i hsame
        subst hsame
        exact hlength
      · rename_i hne
        exact h.vector other ((List.mem_cons.mp hmem).resolve_left hne)
  | simple | array | string | dynstring =>
      rcases hassigns with ⟨val, heq⟩
      subst heq
      exact ⟨h.vector, h.objectVector⟩
  | count | padmarker | pad =>
      cases hassigns
      exact h
  | endstring | endarray => cases hassigns

theorem LengthsRead.assignObjects
    (h : LengthsRead r g vectors objectVectors) {shape : Shape}
    (hassigns : shape.Assigns name r g g') :
    LengthsRead r g' vectors (shape.vectorsRead name ++ objectVectors) := by
  cases shape with
  | dynarray =>
      rcases hassigns with ⟨val, hlength, heq⟩
      subst heq
      refine ⟨h.vector, ?_⟩
      intro other hmem
      rw [Record.objectVector_setObjectVector]
      split
      · rename_i hsame
        subst hsame
        exact hlength
      · rename_i hne
        exact h.objectVector other ((List.mem_cons.mp hmem).resolve_left hne)
  | simple | array =>
      rcases hassigns with ⟨val, heq⟩
      subst heq
      exact ⟨h.vector, h.objectVector⟩
  | endarray => cases hassigns

/-- Arrays of objects that no line has read are empty. -/
def EmptyBut (objectVectors : List String) (g : Record) : Prop :=
  forall name, name ∉ objectVectors -> g.objectVector name = []

theorem EmptyBut.assign (h : EmptyBut objectVectors g) {metatype : Metatype}
    (hassigns : metatype.Assigns name r g g') :
    EmptyBut objectVectors g' := by
  cases metatype with
  | dynarray type member =>
      rcases hassigns with ⟨val, -, heq⟩
      subst heq
      exact h
  | simple | array | string | dynstring =>
      rcases hassigns with ⟨val, heq⟩
      subst heq
      exact h
  | count | padmarker | pad =>
      cases hassigns
      exact h
  | endstring | endarray => cases hassigns

theorem EmptyBut.assignObjects (h : EmptyBut objectVectors g)
    {shape : Shape} (hassigns : shape.Assigns name r g g') :
    EmptyBut (shape.vectorsRead name ++ objectVectors) g' := by
  cases shape with
  | dynarray =>
      rcases hassigns with ⟨val, -, heq⟩
      subst heq
      intro other hother
      have hne : other ≠ name := fun heq =>
        hother (List.mem_append_left _ (List.mem_singleton.mpr heq))
      rw [Record.objectVector_setObjectVector, if_neg hne]
      exact h other fun hmem => hother (List.mem_append_right _ hmem)
  | simple | array =>
      rcases hassigns with ⟨val, heq⟩
      subst heq
      exact h
  | endarray => cases hassigns

theorem EmptyBut.copyDefaultValue (h : EmptyBut objectVectors g)
    (metatype : Metatype) (name : String) :
    EmptyBut objectVectors (metatype.copyDefaultValue name g) := by
  unfold Metatype.copyDefaultValue
  split
  all_goals exact h

theorem EmptyBut.copyDefaultObject (h : EmptyBut objectVectors g)
    (shape : Shape) (name : String) :
    EmptyBut objectVectors (shape.copyDefaultValue name g) := by
  unfold Shape.copyDefaultValue
  split
  all_goals exact h

end Assigns

/-!
## Bounded lines are consumed
-/

theorem convert_uint32 {T : IntType} (hsize : T.size ≤ 4) {n : Nat}
    (h : n ≤ T.max) : convert T uint32 (T.encode n) = n :=
  convert_encode ⟨IntType.fits_of_le_max h, fits_uint32 hsize h⟩

theorem getClampedCount_le (T : IntType) (n : Nat) :
    getClampedCount T n ≤ T.max := by
  rw [getClampedCount]
  split
  · rename_i hlt
    exact Nat.le_of_lt hlt
  · exact Nat.le_refl _

theorem Metatype.consume {metatype : Metatype} {name : String}
    {r g : Record} {l l' : Locals} {offset start : Nat}
    {bytes : List UInt8} {b : MessageBuffer}
    (h : metatype.layout name r l offset = some (l', bytes))
    (hbounded : metatype.isBounded = true) (hfits : metatype.SizeFits)
    (hcounted : metatype.Counted name r l)
    (hpad : forall n, metatype = pad n -> n g = n r)
    (hahead : b.Ahead bytes) (hsmall : bytes.length < 65536)
    (hp : b.p = offset + start) :
    exists g', metatype.read name (l.shift start) b g =
      some (l'.shift start, b.advance bytes.length, g') ∧
        metatype.Assigns name r g g' := by
  cases metatype with
  | simple type member defaultval =>
      cases h
      have hlength := IntType.encode_length type (r.integer name)
      have hload := hahead.load_all
      rw [hlength] at hload ⊢
      rw [read, MessageBuffer.read, hahead.check hsmall name hlength.symm]
      simp only [hload, Option.bind_eq_bind, Option.bind_some,
        Option.pure_def, Option.map_some]
      exact ⟨_, rfl, _, rfl⟩
  | array type member n defaultval =>
      cases h
      have hlength := array_encode_length type (r.array name) n
      have hload := hahead.load_all
      rw [hlength] at hload ⊢
      rw [read, readArray, hahead.check hsmall name hlength.symm]
      simp only [hload, Option.bind_eq_bind, Option.bind_some,
        Option.pure_def, Option.map_some]
      exact ⟨_, rfl, _, rfl⟩
  | dynarray type member =>
      have hcount : l.size name = (r.vector name).length := hcounted
      rw [layout, hcount, if_pos (Nat.le_refl _), List.take_length] at h
      cases h
      have hlength := flatMap_encode_length type (r.vector name)
      rw [read, Locals.shift_size, hcount, readDynArray]
      by_cases hzero : type.size * (r.vector name).length = 0
      · rw [if_pos hzero, hlength, hzero, advance_zero, Option.map_some]
        have hempty : (r.vector name).length = 0 :=
          (Nat.mul_eq_zero.mp hzero).resolve_left
            (Nat.ne_of_gt type.positive)
        exact ⟨_, rfl, [], hempty.symm, rfl⟩
      · have hload := hahead.load_all
        rw [hlength] at hload ⊢
        rw [if_neg hzero, hahead.check hsmall name hlength.symm]
        simp only [hload, Option.bind_eq_bind, Option.bind_some,
          Option.pure_def, Option.map_some]
        exact ⟨_, rfl, _, by rw [List.length_map, List.length_range], rfl⟩
  | count type ref defaultval =>
      cases h
      have hle := getClampedCount_le type (ref.size r name)
      have hlength := IntType.encode_length type
        (getClampedCount type (ref.size r name))
      have hload := hahead.load_all
      rw [hlength] at hload ⊢
      rw [read, readSize, MessageBuffer.read,
        hahead.check hsmall name hlength.symm]
      simp only [hload, Option.bind_eq_bind, Option.bind_some,
        Option.pure_def, Option.map_some, convert_uint32 hfits hle,
        Int.toNat_natCast]
      exact ⟨g, rfl, rfl⟩
  | string n defaultval =>
      have hpos : 0 < n := hfits
      have hroom : ¬(n = 0 ∧ r.string name ≠ []) := by
        intro hboth
        lia
      rw [layout, if_neg hroom] at h
      cases h
      have hlength := string_layout_length hroom
      have hload := hahead.load (n := n - 1) (by lia)
      rw [read, readString, hahead.check hsmall name hlength.symm]
      simp only [hload, Option.bind_eq_bind, Option.bind_some,
        Option.pure_def, Option.map_some, hlength]
      exact ⟨_, rfl, _, rfl⟩
  | dynstring hasNullTerminator defaultval =>
      have hcount := hcounted
      have hnul := Bool.toNat_le hasNullTerminator
      rw [Counted] at hcount
      rw [layout, if_pos (by lia)] at h
      cases h
      rw [hcount] at hahead hsmall ⊢
      rw [read, Locals.shift_size, hcount,
        readDynString_ahead hahead hsmall, Option.map_some]
      exact ⟨_, rfl, _, rfl⟩
  | padmarker =>
      cases h
      rw [read, hahead.room.getParsedSize, hp, Locals.shift_setMarker]
      exact ⟨g, rfl, rfl⟩
  | pad n =>
      have hread := Metatype.read_layout (g := g) h rfl trivial
        (by intro _ _ heq; cases heq) (by intro _ _ heq; cases heq) hpad
        hahead hsmall hp
      exact ⟨g, hread, rfl⟩
  | endstring hasNullTerminator defaultval => cases hbounded
  | endarray type member => cases hbounded

/-- The read of an item consumes its layout. -/
def Consumes
    (readItem : MessageBuffer -> Record -> Option (MessageBuffer × Record))
    (layoutOf : Record -> Option (List (List UInt8))) (item : Record) :
    Prop :=
  forall b old chunks, layoutOf item = some chunks -> Struct.Short chunks ->
    b.Ahead chunks.flatten ->
      exists item', readItem b old =
        some (b.advance chunks.flatten.length, item')

section Objects

variable {readItem : MessageBuffer -> Record ->
  Option (MessageBuffer × Record)}
variable {layoutOf : Record -> Option (List (List UInt8))}

theorem readEach_consume {items : List Record}
    (hitem : forall item, item ∈ items -> Consumes readItem layoutOf item)
    {objects : List (List (List UInt8))}
    (h : items.mapM layoutOf = some objects)
    (hshort : Struct.Short objects.flatten) {olds : List Record}
    (hlength : olds.length = items.length) {b : MessageBuffer}
    (hahead : b.Ahead objects.flatten.flatten) :
    exists vals, readEach readItem olds b =
      some (b.advance objects.flatten.flatten.length, vals) ∧
        vals.length = items.length := by
  induction items generalizing objects olds b with
  | nil =>
      cases h
      rw [List.length_eq_zero_iff.mp hlength]
      exact ⟨[], rfl, rfl⟩
  | cons item items ih =>
      cases olds with
      | nil => cases hlength
      | cons old olds =>
          rw [List.mapM_cons] at h
          rcases Option.bind_eq_some_iff.mp h with ⟨first, hfirst, hrest⟩
          rcases Option.bind_eq_some_iff.mp hrest with
            ⟨later, hlater, hpair⟩
          cases hpair
          rw [List.flatten_cons] at hshort
          rw [List.flatten_cons, List.flatten_append] at hahead ⊢
          rcases hitem item List.mem_cons_self b old first hfirst
            (fun chunk hchunk =>
              hshort chunk (List.mem_append_left _ hchunk)) hahead.front with
            ⟨item', hread⟩
          rcases ih
            (fun item hmem => hitem item (List.mem_cons_of_mem _ hmem))
            hlater
            (fun chunk hchunk =>
              hshort chunk (List.mem_append_right _ hchunk))
            (Nat.succ.inj hlength) hahead.back with ⟨vals, hvals, hcount⟩
          refine ⟨item' :: vals, ?_, congrArg Nat.succ hcount⟩
          rw [readEach, hread, Option.bind_eq_bind, Option.bind_some, hvals,
            Option.bind_eq_bind, Option.bind_some, advance_advance,
            List.length_append]
          rfl

theorem Shape.consume {shape : Shape} {name : String} {r g : Record}
    (hitem : forall item, item ∈ shape.items name r ->
      Consumes readItem layoutOf item)
    {objects : List (List (List UInt8))}
    (h : (shape.items name r).mapM layoutOf = some objects)
    (hshort : Struct.Short objects.flatten) {b : MessageBuffer}
    (hahead : b.Ahead objects.flatten.flatten)
    (hbounded : shape.isBounded = true) (l : Locals)
    (hcount : shape.isDynarray = true ->
      l.size name = (r.objectVector name).length)
    (hsmall : shape.isDynarray = true ->
      (shape.items name r).length < 65536)
    (hnonempty : shape.isDynarray = true ->
      forall item, item ∈ shape.items name r -> forall chunks,
        layoutOf item = some chunks -> 0 < chunks.flatten.length) :
    exists g', shape.read readItem name l b g =
      some (b.advance objects.flatten.flatten.length, g') ∧
        shape.Assigns name r g g' := by
  cases shape with
  | simple defaultval =>
      rcases readEach_consume hitem h hshort
        (show [g.object name].length = 1 from rfl) hahead with
        ⟨vals, hread, -⟩
      rw [readEach] at hread
      rcases Option.bind_eq_some_iff.mp hread with ⟨first, hfirst, hpair⟩
      rcases Prod.ext_iff.mp (Option.some.inj hpair) with ⟨hb, -⟩
      have hb' : first.1 = b.advance objects.flatten.flatten.length := hb
      rw [Shape.read, hfirst, Option.map_some, hb']
      exact ⟨_, rfl, _, rfl⟩
  | array n =>
      have hlength : ((List.range n).map (g.objectArray name)).length =
          ((List.range n).map (r.objectArray name)).length := by
        rw [List.length_map, List.length_map]
      rcases readEach_consume hitem h hshort hlength hahead with
        ⟨vals, hread, -⟩
      rw [Shape.read, hread]
      exact ⟨_, rfl, _, rfl⟩
  | dynarray =>
      have hle := length_le_of_nonempty (hnonempty rfl) h
      have hroom : b.Room (r.objectVector name).length :=
        hahead.room.mono hle
      rcases readEach_consume hitem h hshort
        (resize_length (r.objectVector name).length (g.objectVector name))
        hahead with ⟨vals, hread, hlength⟩
      rw [Shape.read, hcount rfl,
        checkAvailableBuffer_room hroom (hsmall rfl) name]
      refine ⟨g.setObjectVector name vals, ?_, vals, hlength, rfl⟩
      change Option.map _ (readEach readItem _ b) = _
      rw [hread]
      rfl
  | endarray => cases hbounded

end Objects

/-!
## The lines in front
-/

namespace Struct

/-- The lines from the first active one on that extends to the end. -/
def tail (version : Version) : Struct -> Record -> Struct
  | nil, _ => nil
  | field name cond metatype rest, r =>
      if cond version r = true ∧ metatype.isBounded = false then
        field name cond metatype rest
      else rest.tail version r
  | object name cond shape type rest, r =>
      if cond version r = true ∧ shape.isBounded = false then
        object name cond shape type rest
      else rest.tail version r

def FrontBounded (version : Version) : Struct -> Record -> Prop
  | nil, _ => True
  | field _ cond metatype rest, r =>
      (cond version r = true ∧ metatype.isBounded = false) ∨
        rest.FrontBounded version r
  | object name cond shape type rest, r =>
      (cond version r = true ∧ shape.isBounded = false) ∨
        (cond version r = true -> forall item, item ∈ shape.items name r ->
          type.BoundedIn version item) ∧ rest.FrontBounded version r

/-- The arrays of objects that are read in front of that line. -/
def frontObjects (version : Version) : Struct -> Record -> List String
  | nil, _ => []
  | field _ cond metatype rest, r =>
      if cond version r = true ∧ metatype.isBounded = false then []
      else rest.frontObjects version r
  | object name cond shape _ rest, r =>
      if cond version r = true ∧ shape.isBounded = false then []
      else if cond version r = true then
        rest.frontObjects version r ++ shape.vectorsRead name
      else rest.frontObjects version r

theorem BoundedIn.tail_eq {version : Version} {type : Struct} {r : Record}
    (h : type.BoundedIn version r) : type.tail version r = nil := by
  induction type with
  | nil => rfl
  | field name cond metatype rest ih =>
      rw [tail, if_neg, ih h.right]
      intro hend
      rw [h.left hend.left] at hend
      cases hend.right
  | object name cond shape type rest ihtype ihrest =>
      rw [tail, if_neg, ihrest h.right]
      intro hend
      rw [(h.left hend.left).left] at hend
      cases hend.right

theorem BoundedIn.frontBounded {version : Version} {type : Struct}
    {r : Record} (h : type.BoundedIn version r) :
    type.FrontBounded version r := by
  induction type with
  | nil => trivial
  | field name cond metatype rest ih => exact Or.inr (ih h.right)
  | object name cond shape type rest ihtype ihrest =>
      exact Or.inr ⟨fun hactive => (h.left hactive).right, ihrest h.right⟩

/-- What is left of a layout behind the lines in front, and of its reading. -/
structure FrontRead (version : Version) (type : Struct) (r g : Record)
    (l : Locals) (start offset : Nat) (chunks : List (List UInt8))
    (b : MessageBuffer) (objectVectors : List String)
    (front back : List (List UInt8)) (l' : Locals) (g' : Record) : Prop where
  split : chunks = front ++ back
  layout : (type.tail version r).layout version r l'
    (offset + front.flatten.length) = some back
  read : type.read version (l.shift start) b g =
    (type.tail version r).read version (l'.shift start)
      (b.advance front.flatten.length) g'
  counted : (type.tail version r).Counted version r l'
  pads : exists vectors, (type.tail version r).PadsKnown version r vectors
    (type.frontObjects version r ++ objectVectors)
  lengths : forall name, name ∈ type.frontObjects version r ++ objectVectors ->
    (g'.objectVector name).length = (r.objectVector name).length
  empty : EmptyBut objectVectors g ->
    EmptyBut (type.frontObjects version r ++ objectVectors) g'

theorem FrontRead.here {version : Version} {type : Struct} {r g : Record}
    {l : Locals} {start offset : Nat} {chunks : List (List UInt8)}
    {b : MessageBuffer} {vectors objectVectors : List String}
    (htail : type.tail version r = type)
    (hobjects : type.frontObjects version r = [])
    (h : type.layout version r l offset = some chunks)
    (hcounted : type.Counted version r l)
    (hpads : type.PadsKnown version r vectors objectVectors)
    (hlengths : LengthsRead r g vectors objectVectors) :
    type.FrontRead version r g l start offset chunks b objectVectors []
      chunks l g where
  split := rfl
  layout := by rw [htail]; exact h
  read := by rw [htail]; rfl
  counted := by rw [htail]; exact hcounted
  pads := by rw [htail, hobjects]; exact ⟨vectors, hpads⟩
  lengths := by rw [hobjects]; exact hlengths.objectVector
  empty := by rw [hobjects]; exact id

theorem FrontRead.behind {version : Version} {type rest : Struct}
    {r g g₁ : Record} {l l₁ l' : Locals} {start offset : Nat}
    {first later front back : List (List UInt8)} {b : MessageBuffer}
    {names objectVectors : List String} {g' : Record}
    (htail : type.tail version r = rest.tail version r)
    (hobjects : type.frontObjects version r =
      rest.frontObjects version r ++ names)
    (hread : type.read version (l.shift start) b g =
      rest.read version (l₁.shift start) (b.advance first.flatten.length) g₁)
    (hempty : EmptyBut objectVectors g ->
      EmptyBut (names ++ objectVectors) g₁)
    (h : rest.FrontRead version r g₁ l₁ start
      (offset + first.flatten.length) later
      (b.advance first.flatten.length) (names ++ objectVectors) front back l'
      g') :
    type.FrontRead version r g l start offset (first ++ later) b
      objectVectors (first ++ front) back l' g' where
  split := by rw [h.split, List.append_assoc]
  layout := by
    rw [htail, List.flatten_append, List.length_append, ← Nat.add_assoc]
    exact h.layout
  read := by
    rw [htail, hread, h.read, advance_advance, List.flatten_append,
      List.length_append]
  counted := by rw [htail]; exact h.counted
  pads := by
    rw [htail, hobjects, List.append_assoc]
    exact h.pads
  lengths := by
    rw [hobjects, List.append_assoc]
    exact h.lengths
  empty := by
    rw [hobjects, List.append_assoc]
    exact fun hold => h.empty (hempty hold)

theorem FrontRead.skip {version : Version} {type rest : Struct}
    {r g g₁ : Record} {l l₁ l' : Locals} {start offset : Nat}
    {chunks front back : List (List UInt8)} {b : MessageBuffer}
    {objectVectors : List String} {g' : Record}
    (htail : type.tail version r = rest.tail version r)
    (hobjects : type.frontObjects version r = rest.frontObjects version r)
    (hread : type.read version (l.shift start) b g =
      rest.read version (l₁.shift start) b g₁)
    (hempty : EmptyBut objectVectors g -> EmptyBut objectVectors g₁)
    (h : rest.FrontRead version r g₁ l₁ start offset chunks b objectVectors
      front back l' g') :
    type.FrontRead version r g l start offset chunks b objectVectors front
      back l' g' where
  split := h.split
  layout := by rw [htail]; exact h.layout
  read := by rw [htail, hread, h.read]
  counted := by rw [htail]; exact h.counted
  pads := by rw [htail, hobjects]; exact h.pads
  lengths := by rw [hobjects]; exact h.lengths
  empty := by rw [hobjects]; exact fun hold => h.empty (hempty hold)

theorem FrontRead.whole {version : Version} {type : Struct} {r g : Record}
    {l l' : Locals} {start offset : Nat}
    {chunks front back : List (List UInt8)} {b : MessageBuffer}
    {objectVectors : List String} {g' : Record}
    (h : type.FrontRead version r g l start offset chunks b objectVectors
      front back l' g') (hbounded : type.BoundedIn version r) :
    type.read version (l.shift start) b g =
      some (b.advance chunks.flatten.length, g') := by
  have hback := h.layout
  have hread := h.read
  rw [hbounded.tail_eq] at hback hread
  cases hback
  rw [h.split, List.append_nil]
  exact hread

theorem bounded_of_front {active : Prop} {bounded : Bool}
    (h : ¬(active ∧ bounded = false)) (hactive : active) :
    bounded = true := by
  cases bounded with
  | true => rfl
  | false => exact absurd ⟨hactive, rfl⟩ h

/-- Everything in front of the line that extends to the end is consumed. -/
theorem read_front {version : Version} {type : Struct} {r g : Record}
    {l : Locals} {offset start : Nat} {chunks : List (List UInt8)}
    {b : MessageBuffer} {vectors objectVectors : List String}
    (hversion : type.VersionConditions)
    (hfront : type.FrontBounded version r)
    (hcounted : type.Counted version r l)
    (hpads : type.PadsKnown version r vectors objectVectors)
    (hlengths : LengthsRead r g vectors objectVectors)
    (hsizes : type.SizesFit version r)
    (h : type.layout version r l offset = some chunks)
    (hshort : Short chunks) (hahead : b.Ahead chunks.flatten)
    (hp : b.p = offset + start) :
    exists front back l' g', type.FrontRead version r g l start offset chunks
      b objectVectors front back l' g' := by
  induction type generalizing r g l offset start chunks b vectors
    objectVectors with
  | nil =>
      exact ⟨[], chunks, l, g,
        FrontRead.here rfl rfl h hcounted hpads hlengths⟩
  | field name cond metatype rest ih =>
      by_cases hend : cond version r = true ∧ metatype.isBounded = false
      · exact ⟨[], chunks, l, g,
          FrontRead.here (if_pos hend) (if_pos hend) h hcounted hpads
            hlengths⟩
      · have htail : (field name cond metatype rest).tail version r =
            rest.tail version r := if_neg hend
        have hobjects : (field name cond metatype rest).frontObjects version
            r = rest.frontObjects version r := if_neg hend
        have hlater := hfront.resolve_left hend
        have hsame := hversion.left version g r
        rw [Struct.layout] at h
        rw [PadsKnown] at hpads
        rw [Counted] at hcounted
        split at h
        · rename_i hactive
          rw [if_pos hactive] at hpads hcounted
          rcases Option.bind_eq_some_iff.mp h with ⟨line, hline, hafter⟩
          rcases Option.bind_eq_some_iff.mp hafter with
            ⟨later, hlayout, hpair⟩
          cases hpair
          rw [List.flatten_cons] at hahead
          rcases Metatype.consume (g := g) hline
            (bounded_of_front hend hactive) (hsizes.left hactive)
            hcounted.left (hlengths.padKnown hpads.left) hahead.front
            (hshort _ List.mem_cons_self) hp with ⟨g₁, hread, hassigns⟩
          have hsize : line.1.size = (metatype.declare name r l).size :=
            Metatype.layout_size hline
          have hoffset : b.p + line.2.length =
              offset + line.2.length + start := by lia
          rcases ih hversion.right hlater (hcounted.right.of_size hsize)
            hpads.right (hlengths.assign hassigns) hsizes.right hlayout
            (fun chunk hchunk => hshort chunk (List.mem_cons_of_mem _ hchunk))
            hahead.back hoffset with ⟨front, back, l', g', hrest⟩
          have hone : [line.2].flatten = line.2 := List.flatten_singleton
          rw [← hone] at hread hrest
          refine ⟨[line.2] ++ front, back, l', g',
            FrontRead.behind htail (hobjects.trans (List.append_nil _).symm)
              ?_ (fun hempty => hempty.assign hassigns) hrest⟩
          rw [Struct.read, hsame, if_pos hactive, hread, Option.bind_eq_bind,
            Option.bind_some]
        · rename_i hinactive
          rw [if_neg hinactive] at hpads hcounted
          rcases ih hversion.right hlater hcounted hpads
            (hlengths.copyDefaultValue metatype name) hsizes.right h hshort
            hahead hp with ⟨front, back, l', g', hrest⟩
          refine ⟨front, back, l', g', FrontRead.skip htail hobjects ?_
            (fun hempty => hempty.copyDefaultValue metatype name) hrest⟩
          rw [Struct.read, hsame, if_neg hinactive, Metatype.skip_shift]
  | object name cond shape type rest ihtype ihrest =>
      by_cases hend : cond version r = true ∧ shape.isBounded = false
      · exact ⟨[], chunks, l, g,
          FrontRead.here (if_pos hend) (if_pos hend) h hcounted hpads
            hlengths⟩
      · have htail : (object name cond shape type rest).tail version r =
            rest.tail version r := if_neg hend
        have hlater := hfront.resolve_left hend
        have hsame := hversion.left version g r
        rw [Struct.layout] at h
        rw [PadsKnown] at hpads
        rw [Counted] at hcounted
        split at h
        · rename_i hactive
          have hobjects : (object name cond shape type rest).frontObjects
              version r = rest.frontObjects version r ++
                shape.vectorsRead name := by
            rw [frontObjects, if_neg hend, if_pos hactive]
          rw [if_pos hactive] at hpads hcounted
          rw [Shape.elements_counted hcounted.left, Option.bind_eq_bind,
            Option.bind_some] at h
          rcases Option.bind_eq_some_iff.mp h with
            ⟨objects, hlayouts, hafter⟩
          rcases Option.bind_eq_some_iff.mp hafter with
            ⟨later, hlayout, hpair⟩
          cases hpair
          rcases hsizes.left hactive with ⟨hitems, hdynarray⟩
          rw [List.flatten_append] at hahead
          -- the objects are structs without a line that extends to the end
          have hconsumes : forall item, item ∈ shape.items name r ->
              Consumes (fun b item => type.read version Locals.initial b item)
                (fun item => type.layout version item Locals.initial 0)
                item := by
            intro item hmem b old chunks hlayout hshort hahead
            have hin := hlater.left hactive item hmem
            rcases ihtype (g := old) hversion.right.left
              hin.frontBounded (hcounted.right.left item hmem)
              (hpads.left item hmem)
              ⟨fun _ hc => absurd hc List.not_mem_nil,
                fun _ hc => absurd hc List.not_mem_nil⟩ (hitems item hmem)
              hlayout hshort hahead (Nat.zero_add b.p).symm with
              ⟨front, back, l', g', hread⟩
            exact ⟨g', hread.whole hin⟩
          rcases Shape.consume (g := g) hconsumes hlayouts
            (fun chunk hchunk => hshort chunk (List.mem_append_left _ hchunk))
            hahead.front (bounded_of_front hend hactive) (l.shift start)
            hcounted.left (fun hdyn => (hdynarray hdyn).left)
            (fun hdyn => (hdynarray hdyn).right) with
            ⟨g₁, hread, hassigns⟩
          have hoffset : b.p + objects.flatten.flatten.length =
              offset + objects.flatten.flatten.length + start := by lia
          rcases ihrest hversion.right.right hlater.right hcounted.right.right
            hpads.right (hlengths.assignObjects hassigns) hsizes.right hlayout
            (fun chunk hchunk => hshort chunk (List.mem_append_right _ hchunk))
            hahead.back hoffset with ⟨front, back, l', g', hrest⟩
          refine ⟨objects.flatten ++ front, back, l', g',
            FrontRead.behind htail hobjects ?_
              (fun hempty => hempty.assignObjects hassigns) hrest⟩
          rw [Struct.read, hsame, if_pos hactive]
          simp only [Option.bind_eq_bind]
          rw [hread, Option.bind_some]
        · rename_i hinactive
          have hobjects : (object name cond shape type rest).frontObjects
              version r = rest.frontObjects version r := by
            rw [frontObjects, if_neg hend, if_neg hinactive]
          rw [if_neg hinactive] at hpads hcounted
          rcases ihrest hversion.right.right hlater.right hcounted hpads
            (hlengths.copyDefaultObject shape name) hsizes.right h hshort
            hahead hp with ⟨front, back, l', g', hrest⟩
          refine ⟨front, back, l', g', FrontRead.skip htail hobjects ?_
            (fun hempty => hempty.copyDefaultObject shape name) hrest⟩
          rw [Struct.read, hsame, if_neg hinactive]

end Struct

end Packet
end Rzu
