import Rzu.Packet.ReadingBack

/-!
# Fields at the end of a packet

A field that extends to the end of the packet is read back if nothing follows
it, and the bytes of the packet end there.
-/

namespace Rzu
namespace Packet

open Library MessageBuffer

/-!
## Counts in force
-/

/-- The count in force is the size of the field. -/
def Metatype.Counted (name : String) (r : Record) (l : Locals) :
    Metatype -> Prop
  | dynarray _ _ => l.size name = (r.vector name).length
  | dynstring hasNullTerminator _ =>
      l.size name = (r.string name).length + hasNullTerminator.toNat
  | _ => True

/-- Every active dynamic field finds its size in the count in force. -/
def Struct.Counted (version : Version) : Struct -> Record -> Locals -> Prop
  | nil, _, _ => True
  | field name cond metatype rest, r, l =>
      if cond version r then
        metatype.Counted name r l ∧
          rest.Counted version r (metatype.declare name r l)
      else rest.Counted version r (metatype.skip name l)
  | object name cond shape type rest, r, l =>
      if cond version r then
        (shape.isDynarray = true ->
          l.size name = (r.objectVector name).length) ∧
          (forall item, item ∈ shape.items name r ->
            type.Counted version item Locals.initial) ∧
          rest.Counted version r l
      else rest.Counted version r l

theorem Struct.Counted.of_size {version : Version} {type : Struct}
    {r : Record} {l l' : Locals} (h : type.Counted version r l)
    (hsize : l'.size = l.size) : type.Counted version r l' := by
  induction type generalizing l l' with
  | nil => trivial
  | field name cond metatype rest ih =>
      rw [Counted] at h ⊢
      split at h
      · rename_i hactive
        rw [if_pos hactive]
        refine ⟨?_, ih h.right ?_⟩
        · have hline := h.left
          cases metatype with
          | dynarray | dynstring =>
              rw [Metatype.Counted] at hline ⊢
              rw [hsize]
              exact hline
          | simple | array | count | string | padmarker | pad | endstring
          | endarray => trivial
        · cases metatype with
          | count type ref defaultval =>
              simp only [Metatype.declare, Locals.setSize, hsize]
          | simple | array | dynarray | string | dynstring | padmarker | pad
          | endstring | endarray => exact hsize
      · rename_i hinactive
        rw [if_neg hinactive]
        apply ih h
        unfold Metatype.skip
        split
        · simp only [Locals.setSize, hsize]
        · exact hsize
  | object name cond shape type rest ihtype ihrest =>
      rw [Counted] at h ⊢
      split at h
      · rename_i hactive
        rw [if_pos hactive]
        refine ⟨?_, h.right.left, ihrest h.right.right hsize⟩
        intro hdynarray
        rw [hsize]
        exact h.left hdynarray
      · rename_i hinactive
        rw [if_neg hinactive]
        exact ihrest h hsize

theorem Shape.elements_counted {shape : Shape} {name : String} {r : Record}
    {l : Locals}
    (h : shape.isDynarray = true ->
      l.size name = (r.objectVector name).length) :
    shape.elements name r l = some (shape.items name r) := by
  cases shape with
  | dynarray =>
      rw [elements, h rfl, if_pos (Nat.le_refl _), List.take_length]
      rfl
  | simple | array | endarray => rfl

theorem Struct.Counted.enough {version : Version} {type : Struct}
    {r : Record} {l : Locals} (h : type.Counted version r l) :
    type.Enough version r l := by
  induction type generalizing r l with
  | nil => trivial
  | field name cond metatype rest ih =>
      rw [Counted] at h
      rw [Enough]
      split at h
      · rename_i hactive
        rw [if_pos hactive]
        refine ⟨?_, ih h.right⟩
        cases metatype with
        | dynarray type member => exact Nat.le_of_eq h.left
        | dynstring hasNullTerminator defaultval =>
            exact Nat.le_of_eq h.left
        | simple | array | count | string | padmarker | pad | endstring
        | endarray => trivial
      · rename_i hinactive
        rw [if_neg hinactive]
        exact ih h
  | object name cond shape type rest ihtype ihrest =>
      rw [Counted] at h
      rw [Enough]
      split at h
      · rename_i hactive
        rw [if_pos hactive]
        refine ⟨?_, ?_, ihrest h.right.right⟩
        · cases shape with
          | dynarray => exact Nat.le_of_eq (h.left rfl)
          | simple | array | endarray => trivial
        · intro elements helements item hitem
          rw [Shape.elements_counted h.left] at helements
          cases helements
          exact ihtype (h.right.left item hitem)
      · rename_i hinactive
        rw [if_neg hinactive]
        exact ihrest h

theorem Struct.counted_of_counts {version : Version} {type : Struct}
    {r : Record} {l : Locals} {seen : List DeclaredCount}
    (hcounts : type.CountsMatch seen) (hforce : InForce version r l seen)
    (hrange : type.InRange version r) : type.Counted version r l := by
  induction type generalizing r l seen with
  | nil => trivial
  | field name cond metatype rest ih =>
      rcases hcounts with ⟨hrelies, hfresh, hrest⟩
      rw [Counted]
      split
      · rename_i hactive
        have hline := hrange.left hactive
        refine ⟨?_, ih hrest (hforce.declare hfresh hline) hrange.right⟩
        cases metatype with
        | dynarray type member => exact hforce.dynarray hrelies hactive
        | dynstring hasNullTerminator defaultval =>
            exact hforce.dynstring hrelies hactive
        | simple | array | count | string | padmarker | pad | endstring
        | endarray => trivial
      · rename_i hinactive
        exact ih hrest (hforce.skip hfresh hinactive) hrange.right
  | object name cond shape type rest ihtype ihrest =>
      rcases hcounts with ⟨hrelies, htype, hrest⟩
      rw [Counted]
      split
      · rename_i hactive
        refine ⟨?_, ?_, ihrest hrest hforce hrange.right⟩
        · intro hdynarray
          exact hforce _ (hrelies hdynarray) hactive
        · intro item hitem
          exact ihtype htype (fun _ hc => absurd hc List.not_mem_nil)
            ((hrange.left hactive).left item hitem)
      · exact ihrest hrest hforce hrange.right

/-!
## Lines that extend to the end
-/

/-- No line is active. -/
def Struct.Silent (version : Version) : Struct -> Record -> Prop
  | nil, _ => True
  | field _ cond _ rest, r =>
      ¬cond version r = true ∧ rest.Silent version r
  | object _ cond _ _ rest, r =>
      ¬cond version r = true ∧ rest.Silent version r

/-- No active line extends to the end of the packet. -/
def Struct.BoundedIn (version : Version) : Struct -> Record -> Prop
  | nil, _ => True
  | field _ cond metatype rest, r =>
      (cond version r = true -> metatype.isBounded = true) ∧
        rest.BoundedIn version r
  | object name cond shape type rest, r =>
      (cond version r = true -> shape.isBounded = true ∧
        forall item, item ∈ shape.items name r ->
          type.BoundedIn version item) ∧
        rest.BoundedIn version r

/--
A string at the end can be read back, and so can bytes: the cursor moves by the
number of elements.
-/
def Metatype.ReadsToEnd (name : String) (r : Record) : Metatype -> Prop
  | endstring _ _ => True
  | endarray type member => type.size = 1 ∧
      forall val, val ∈ r.vector name -> Fits type member val
  | _ => False

/-- Objects at the end can be read back if each one has a byte of its own. -/
def Shape.ReadsToEnd (endsLast boundedIn : Record -> Prop)
    (layoutOf : Record -> Option (List (List UInt8))) (name : String)
    (r : Record) : Shape -> Prop
  | simple _ => endsLast (r.object name)
  | endarray => forall item, item ∈ r.objectVector name ->
      boundedIn item ∧
        forall chunks, layoutOf item = some chunks ->
          0 < chunks.flatten.length
  | _ => False

/-- An active line that extends to the end of the packet is the last one. -/
def Struct.EndsLast (version : Version) : Struct -> Record -> Prop
  | nil, _ => True
  | field name cond metatype rest, r =>
      (cond version r = true -> metatype.isBounded = false ->
        metatype.ReadsToEnd name r ∧ rest.Silent version r) ∧
        rest.EndsLast version r
  | object name cond shape type rest, r =>
      (cond version r = true ->
        (shape.isBounded = true ∧
          forall item, item ∈ shape.items name r ->
            type.BoundedIn version item) ∨
        shape.ReadsToEnd (fun item => type.EndsLast version item)
            (fun item => type.BoundedIn version item)
            (fun item => type.layout version item Locals.initial 0) name r ∧
          rest.Silent version r) ∧
        rest.EndsLast version r

namespace Struct

variable {version : Version} {r g : Record} {l : Locals}

theorem Silent.layout {type : Struct} (h : type.Silent version r)
    (l : Locals) (offset : Nat) :
    type.layout version r l offset = some [] := by
  induction type generalizing l with
  | nil => rfl
  | field name cond metatype rest ih =>
      rw [Struct.layout, if_neg h.left]
      exact ih h.right _
  | object name cond shape type rest ihtype ihrest =>
      rw [Struct.layout, if_neg h.left]
      exact ihrest h.right _

theorem Silent.read {type : Struct} (h : type.Silent version r)
    (hconditions : type.SameConditions version r g) (l : Locals)
    (b : MessageBuffer) :
    type.read version l b g = some (b, type.overwrite version r g) := by
  induction type generalizing l g with
  | nil => rfl
  | field name cond metatype rest ih =>
      have hlater := hconditions.right
      rw [if_neg h.left] at hlater
      rw [Struct.read, overwrite, hconditions.left, if_neg h.left,
        if_neg h.left]
      exact ih h.right hlater _
  | object name cond shape type rest ihtype ihrest =>
      have hlater := hconditions.right.right
      rw [if_neg h.left] at hlater
      rw [Struct.read, overwrite, hconditions.left, if_neg h.left,
        if_neg h.left]
      exact ihrest h.right hlater _

theorem Bounded.boundedIn {type : Struct} (h : type.Bounded)
    (version : Version) (r : Record) : type.BoundedIn version r := by
  induction type generalizing r with
  | nil => trivial
  | field name cond metatype rest ih =>
      exact ⟨fun _ => h.left, ih h.right r⟩
  | object name cond shape type rest ihtype ihrest =>
      exact ⟨fun _ => ⟨h.left, fun item _ => ihtype h.right.left item⟩,
        ihrest h.right.right r⟩

theorem BoundedIn.endsLast {type : Struct} (h : type.BoundedIn version r) :
    type.EndsLast version r := by
  induction type with
  | nil => trivial
  | field name cond metatype rest ih =>
      refine ⟨?_, ih h.right⟩
      intro hactive hunbounded
      rw [h.left hactive] at hunbounded
      cases hunbounded
  | object name cond shape type rest ihtype ihrest =>
      exact ⟨fun hactive => Or.inl (h.left hactive), ihrest h.right⟩

end Struct

/-!
## Reading to the end
-/

namespace MessageBuffer

structure AtEnd (b : MessageBuffer) (bytes : List UInt8) : Prop where
  room : b.Room bytes.length
  data : b.buffer.drop b.p = bytes

variable {b : MessageBuffer} {bytes xs ys : List UInt8}

theorem AtEnd.ahead (h : b.AtEnd bytes) : b.Ahead bytes where
  room := h.room
  data := ⟨[], by rw [h.data, List.append_nil]⟩

theorem AtEnd.back (h : b.AtEnd (xs ++ ys)) :
    (b.advance xs.length).AtEnd ys where
  room := h.ahead.back.room
  data := by
    change b.buffer.drop (b.p + xs.length) = ys
    rw [← List.drop_drop, h.data, List.drop_left]

theorem AtEnd.getSize (h : b.AtEnd bytes) :
    b.getSize = b.p + bytes.length := by
  have hfits := h.room.fits
  have hle := b.getSize_le
  have hlength : (b.buffer.drop b.p).length = bytes.length :=
    congrArg List.length h.data
  rw [List.length_drop] at hlength
  lia

theorem AtEnd.remainingSize (h : b.AtEnd bytes) :
    b.remainingSize = bytes.length := by
  rw [MessageBuffer.remainingSize, h.getSize, h.room.getParsedSize]
  lia

theorem readEndString_atEnd {val : CharString} {hasNullTerminator : Bool}
    (h : b.AtEnd (val ++ List.replicate hasNullTerminator.toNat 0))
    (hsmall : (val ++ List.replicate hasNullTerminator.toNat 0).length <
      65536)
    (fieldName : String) (old : CharString) :
    b.readEndString fieldName old hasNullTerminator =
      some (b.advance
        (val ++ List.replicate hasNullTerminator.toNat 0).length, val) := by
  have hbytes : (val ++ [(0 : UInt8)]).take
      (val.length + hasNullTerminator.toNat) =
        val ++ List.replicate hasNullTerminator.toNat 0 := by
    cases hasNullTerminator with
    | false => simp
    | true =>
        rw [List.take_of_length_le (by simp)]
        rfl
  have hlength : (val ++ List.replicate hasNullTerminator.toNat
      (0 : UInt8)).length = val.length + hasNullTerminator.toNat := by
    rw [List.length_append, List.length_replicate]
  have hahead := h.ahead
  rw [readEndString, h.remainingSize, hlength]
  rw [← hbytes] at hahead hsmall
  have hread := readDynString_ahead hahead hsmall fieldName old
  rw [hbytes, hlength] at hread
  exact hread

theorem readEndArray_atEnd {T U : IntType} {val : List Int}
    (hbytes : T.size = 1) (hrange : forall x, x ∈ val -> Fits T U x)
    (h : b.AtEnd (val.flatMap T.encode))
    (hsmall : (val.flatMap T.encode).length < 65536) (fieldName : String)
    (old : List Int) :
    b.readEndArray T U fieldName old =
      some (b.advance (val.flatMap T.encode).length, val) := by
  have hlength : (val.flatMap T.encode).length = val.length := by
    rw [flatMap_encode_length, hbytes, Nat.one_mul]
  have hload := h.ahead.load_all
  have hcheck := h.ahead.check hsmall fieldName hlength.symm
  rw [hlength] at hload
  rw [readEndArray, h.remainingSize, hlength, hbytes, Nat.div_one]
  simp only [hcheck, Nat.one_mul, hload, Option.bind_eq_bind,
    Option.bind_some, Option.pure_def]
  congr 2
  apply List.ext_getElem
  · simp
  · intro i hi hi'
    rw [List.getElem_map, List.getElem_range, slice_flatMap T hi',
      convert_encode (hrange _ (List.getElem_mem hi'))]

end MessageBuffer

theorem Metatype.read_atEnd {metatype : Metatype} {name : String}
    {r : Record} {l l' : Locals} {offset start : Nat} {bytes : List UInt8}
    {b : MessageBuffer}
    (h : metatype.layout name r l offset = some (l', bytes))
    (hends : metatype.ReadsToEnd name r) (hatEnd : b.AtEnd bytes)
    (hsmall : bytes.length < 65536) (g : Record) :
    metatype.read name (l.shift start) b g =
      some (l'.shift start, b.advance bytes.length,
        metatype.restore name r g) := by
  cases metatype with
  | endstring hasNullTerminator defaultval =>
      cases h
      rw [read, readEndString_atEnd hatEnd hsmall, Option.map_some]
      rfl
  | endarray type member =>
      cases h
      rw [read, readEndArray_atEnd hends.left hends.right hatEnd hsmall,
        Option.map_some]
      rfl
  | simple | array | dynarray | count | string | dynstring | padmarker
  | pad => cases hends

theorem readEndEach_atEnd
    {readItem : MessageBuffer -> Record -> Option (MessageBuffer × Record)}
    {layoutOf : Record -> Option (List (List UInt8))}
    {overwrite : Record -> Record -> Record} {items : List Record}
    (hitem : forall b item old chunks, item ∈ items ->
      layoutOf item = some chunks -> Struct.Short chunks ->
        b.Ahead chunks.flatten ->
          readItem b old =
            some (b.advance chunks.flatten.length, overwrite item old))
    (hnonempty : forall item, item ∈ items -> forall chunks,
      layoutOf item = some chunks -> 0 < chunks.flatten.length)
    {objects : List (List (List UInt8))}
    (h : items.mapM layoutOf = some objects)
    (hshort : Struct.Short objects.flatten) {b : MessageBuffer}
    (hatEnd : b.AtEnd objects.flatten.flatten) {fuel last : Nat}
    (hfuel : items.length < fuel) (hlast : items ≠ [] -> last ≠ b.p)
    (val : List Record) :
    readEndEach readItem fuel last b val =
      some (b.advance objects.flatten.flatten.length,
        val ++ overwriteEach overwrite items
          (List.replicate items.length Record.zero)) := by
  induction items generalizing objects b fuel last val with
  | nil =>
      cases h
      cases fuel with
      | zero => cases hfuel
      | succ fuel =>
          have hsize := hatEnd.getSize
          have hdone : ¬(last ≠ b.getParsedSize ∧
              b.getParsedSize < b.getSize) := by
            rw [hatEnd.room.getParsedSize, hsize]
            exact fun hboth => absurd hboth.right (Nat.lt_irrefl _)
          rw [readEndEach, if_neg hdone]
          exact congrArg some (Prod.ext (advance_zero b).symm
            (List.append_nil val).symm)
  | cons item items ih =>
      rw [List.mapM_cons] at h
      rcases Option.bind_eq_some_iff.mp h with ⟨first, hfirst, hrest⟩
      rcases Option.bind_eq_some_iff.mp hrest with ⟨later, hlater, hpair⟩
      cases hpair
      rw [List.flatten_cons] at hshort
      rw [List.flatten_cons, List.flatten_append] at hatEnd ⊢
      have hpos := hnonempty item List.mem_cons_self first hfirst
      have hread := hitem b item Record.zero first List.mem_cons_self hfirst
        (fun chunk hchunk => hshort chunk (List.mem_append_left _ hchunk))
        hatEnd.ahead.front
      have hsize := hatEnd.getSize
      rw [List.length_append] at hsize
      have hparsed := hatEnd.room.getParsedSize
      cases fuel with
      | zero => cases hfuel
      | succ fuel =>
          have hmore : last ≠ b.getParsedSize ∧
              b.getParsedSize < b.getSize := by
            rw [hparsed, hsize]
            exact ⟨hlast (List.cons_ne_nil _ _), by lia⟩
          have hrest := ih
            (fun b item old chunks hmem =>
              hitem b item old chunks (List.mem_cons_of_mem _ hmem))
            (fun item hmem => hnonempty item (List.mem_cons_of_mem _ hmem))
            hlater
            (fun chunk hchunk =>
              hshort chunk (List.mem_append_right _ hchunk))
            hatEnd.back (Nat.lt_of_succ_lt_succ hfuel)
            (fun _ => by
              change b.getParsedSize ≠ b.p + first.flatten.length
              lia)
            (val ++ [overwrite item Record.zero])
          rw [readEndEach, if_pos hmore, hread, Option.bind_eq_bind,
            Option.bind_some, hrest, advance_advance, List.length_append,
            List.append_assoc]
          rfl

namespace Struct

variable {version : Version}

theorem read_objects_atEnd
    {readItem : MessageBuffer -> Record -> Option (MessageBuffer × Record)}
    {layoutOf : Record -> Option (List (List UInt8))}
    {overwrite : Record -> Record -> Record} {name : String}
    {r g : Record}
    (hitem : forall b item old chunks, item ∈ r.objectVector name ->
      layoutOf item = some chunks -> Struct.Short chunks ->
        b.Ahead chunks.flatten ->
          readItem b old =
            some (b.advance chunks.flatten.length, overwrite item old))
    (hnonempty : forall item, item ∈ r.objectVector name -> forall chunks,
      layoutOf item = some chunks -> 0 < chunks.flatten.length)
    {objects : List (List (List UInt8))}
    (h : (r.objectVector name).mapM layoutOf = some objects)
    (hshort : Struct.Short objects.flatten) {b : MessageBuffer}
    (hatEnd : b.AtEnd objects.flatten.flatten) (l : Locals) :
    Shape.endarray.read readItem name l b g =
      some (b.advance objects.flatten.flatten.length,
        Shape.endarray.restore overwrite name r g) := by
  have hle := length_le_of_nonempty hnonempty h
  have hsize := hatEnd.getSize
  have hlt := b.getSize_lt
  have hlast : r.objectVector name ≠ [] -> 2 ^ 32 - 1 ≠ b.p := by
    intro hsome
    have hpos := List.length_pos_iff.mpr hsome
    lia
  rw [Shape.read, readEndEach_atEnd hitem hnonempty h hshort hatEnd
    (by lia) hlast]
  rfl

/--
Deserialization reads the layout and makes the assignments.  A line that
extends to the end of the packet needs the end of the buffer behind it.
-/
theorem read_to_end {type : Struct} {r g : Record} {l : Locals}
    {offset start : Nat} {chunks : List (List UInt8)} {b : MessageBuffer}
    {vectors objectVectors : List String}
    (hconditions : type.SameConditions version r g)
    (hends : type.EndsLast version r) (hcounted : type.Counted version r l)
    (hpads : type.PadsKnown version r vectors objectVectors)
    (hlengths : LengthsRead r g vectors objectVectors)
    (hrange : type.InRange version r)
    (h : type.layout version r l offset = some chunks)
    (hshort : Short chunks) (hahead : b.Ahead chunks.flatten)
    (hend : type.BoundedIn version r ∨ b.AtEnd chunks.flatten)
    (hp : b.p = offset + start) :
    type.read version (l.shift start) b g =
      some (b.advance chunks.flatten.length,
        type.overwrite version r g) := by
  induction type generalizing r g l offset start chunks b vectors
    objectVectors with
  | nil =>
      cases h
      rfl
  | field name cond metatype rest ih =>
      rw [layout] at h
      rw [PadsKnown] at hpads
      rw [Counted] at hcounted
      rw [read, overwrite, hconditions.left]
      have hlaterConditions := hconditions.right
      split at h
      · rename_i hactive
        rw [if_pos hactive] at hpads hcounted hlaterConditions ⊢
        rw [if_pos hactive]
        rcases Option.bind_eq_some_iff.mp h with ⟨line, hline, hafter⟩
        rcases Option.bind_eq_some_iff.mp hafter with ⟨later, hlater, hpair⟩
        cases hpair
        rw [List.flatten_cons] at hahead hend ⊢
        have hsmall := hshort _ List.mem_cons_self
        by_cases hbounded : metatype.isBounded = true
        · have hread := Metatype.read_layout hline hbounded
            (hrange.left hactive)
            (fun T U heq => by
              have hcount := hcounted.left
              rw [heq] at hcount
              exact hcount)
            (fun nul d heq => by
              have hcount := hcounted.left
              rw [heq] at hcount
              exact hcount)
            (hlengths.padKnown hpads.left) hahead.front hsmall hp
          have hsize : line.1.size = (metatype.declare name r l).size :=
            Metatype.layout_size hline
          rw [hread, Option.bind_eq_bind, Option.bind_some,
            ih hlaterConditions hends.right
              (hcounted.right.of_size hsize) hpads.right
              (hlengths.restore metatype name) hrange.right hlater
              (fun chunk hchunk =>
                hshort chunk (List.mem_cons_of_mem _ hchunk))
              hahead.back
              (hend.imp (fun hin => hin.right) fun hin => hin.back)
              (by
                change b.p + line.2.length = offset + line.2.length + start
                lia),
            advance_advance, List.length_append]
        · have hunbounded : metatype.isBounded = false :=
            Bool.eq_false_iff.mpr hbounded
          rcases hends.left hactive hunbounded with ⟨htoEnd, hsilent⟩
          rw [hsilent.layout] at hlater
          cases hlater
          rw [List.flatten_nil, List.append_nil] at hend ⊢
          have hatEnd := hend.resolve_left fun hin =>
            hbounded (hin.left hactive)
          rw [Metatype.read_atEnd hline htoEnd hatEnd hsmall,
            Option.bind_eq_bind, Option.bind_some,
            hsilent.read hlaterConditions]
      · rename_i hinactive
        rw [if_neg hinactive] at hpads hcounted hlaterConditions ⊢
        rw [if_neg hinactive, Metatype.skip_shift]
        exact ih hlaterConditions hends.right hcounted hpads
          (hlengths.copyDefaultValue metatype name) hrange.right h hshort
          hahead (hend.imp_left fun hin => hin.right) hp
  | object name cond shape type rest ihtype ihrest =>
      rw [layout] at h
      rw [PadsKnown] at hpads
      rw [Counted] at hcounted
      rw [read, overwrite, hconditions.left]
      have hlaterConditions := hconditions.right.right
      split at h
      · rename_i hactive
        rw [if_pos hactive] at hpads hcounted hlaterConditions ⊢
        rw [if_pos hactive]
        rw [Shape.elements_counted hcounted.left, Option.bind_eq_bind,
          Option.bind_some] at h
        rcases Option.bind_eq_some_iff.mp h with ⟨objects, hobjects, hafter⟩
        rcases Option.bind_eq_some_iff.mp hafter with
          ⟨later, hlater, hpair⟩
        cases hpair
        rcases hrange.left hactive with ⟨hitems, hdynarray⟩
        rw [List.flatten_append] at hahead hend ⊢
        have hfront : Short objects.flatten := fun chunk hchunk =>
          hshort chunk (List.mem_append_left _ hchunk)
        -- an object is read back where it ends, or at the end of the buffer
        have hitem : forall (b : MessageBuffer) (item old : Record)
            (chunks : List (List UInt8)), item ∈ shape.items name r ->
              type.layout version item Locals.initial 0 = some chunks ->
                Short chunks -> b.Ahead chunks.flatten ->
                  type.EndsLast version item ->
                    (type.BoundedIn version item ∨
                      b.AtEnd chunks.flatten) ->
                  type.read version Locals.initial b old =
                    some (b.advance chunks.flatten.length,
                      type.overwrite version item old) := by
          intro b item old chunks hmem hlayout hshort hahead hlast hend
          have hread : type.read version (Locals.initial.shift b.p) b old =
              some (b.advance chunks.flatten.length,
                type.overwrite version item old) :=
            ihtype (hconditions.right.left hactive item hmem old) hlast
              (hcounted.right.left item hmem) (hpads.left item hmem)
              ⟨fun _ hc => absurd hc List.not_mem_nil,
                fun _ hc => absurd hc List.not_mem_nil⟩
              (hitems item hmem) hlayout hshort hahead hend
              (Nat.zero_add b.p).symm
          exact hread
        rcases hends.left hactive with hbounded | ⟨htoEnd, hsilent⟩
        · have hobject := read_object
            (fun b item old chunks hmem hlayout hshort hahead =>
              hitem b item old chunks hmem hlayout hshort hahead
                (hbounded.right item hmem).endsLast
                (Or.inl (hbounded.right item hmem)))
            hobjects hfront hahead.front hbounded.left (l.shift start)
            (g := g) hcounted.left
            (fun hdyn => (hdynarray hdyn).left)
            (fun hdyn => (hdynarray hdyn).right)
          simp only [Option.bind_eq_bind]
          rw [hobject, Option.bind_some,
            ihrest hlaterConditions hends.right hcounted.right.right
              hpads.right
              (hlengths.restoreObjects hbounded.left name _) hrange.right
              hlater
              (fun chunk hchunk =>
                hshort chunk (List.mem_append_right _ hchunk))
              hahead.back
              (hend.imp (fun hin => hin.right) fun hin => hin.back)
              (by
                change b.p + objects.flatten.flatten.length = _
                lia),
            advance_advance, List.length_append]
        · rw [hsilent.layout] at hlater
          cases hlater
          rw [List.flatten_nil, List.append_nil] at hahead hend ⊢
          have hobject : shape.read
              (fun b item => type.read version Locals.initial b item) name
                (l.shift start) b g =
              some (b.advance objects.flatten.flatten.length,
                shape.restore (fun r g => type.overwrite version r g) name
                  r g) := by
            cases shape with
            | simple defaultval =>
                rcases Option.bind_eq_some_iff.mp hobjects with
                  ⟨first, hfirst, hpair⟩
                cases hpair
                rw [List.reverse_singleton, List.flatten_singleton]
                  at hfront hahead hend ⊢
                rw [Shape.read,
                  hitem b (r.object name) (g.object name) first
                    List.mem_cons_self hfirst hfront hahead htoEnd
                    (hend.imp_left fun hin =>
                      (hin.left hactive).right _ List.mem_cons_self),
                  Option.map_some]
                rfl
            | endarray =>
                have hatEnd := hend.resolve_left fun hin =>
                  Bool.false_ne_true (hin.left hactive).left
                exact read_objects_atEnd
                  (fun b item old chunks hmem hlayout hshort hahead =>
                    hitem b item old chunks hmem hlayout hshort hahead
                      (htoEnd item hmem).left.endsLast
                      (Or.inl (htoEnd item hmem).left))
                  (fun item hmem => (htoEnd item hmem).right)
                  hobjects hfront hatEnd (l.shift start)
            | array | dynarray => cases htoEnd
          simp only [Option.bind_eq_bind]
          rw [hobject, Option.bind_some, hsilent.read hlaterConditions]
      · rename_i hinactive
        rw [if_neg hinactive] at hpads hcounted hlaterConditions ⊢
        rw [if_neg hinactive]
        exact ihrest hlaterConditions hends.right hcounted hpads
          (hlengths.copyDefaultObject shape name) hrange.right h hshort
          hahead (hend.imp_left fun hin => hin.right) hp

theorem read_layout {type : Struct} {r g : Record} {l : Locals}
    {offset start : Nat} {chunks : List (List UInt8)} {b : MessageBuffer}
    {seen : List DeclaredCount} {vectors objectVectors : List String}
    (hconditions : type.SameConditions version r g)
    (hbounded : type.Bounded)
    (hcounts : type.CountsMatch seen) (hforce : InForce version r l seen)
    (hpads : type.PadsKnown version r vectors objectVectors)
    (hlengths : LengthsRead r g vectors objectVectors)
    (hrange : type.InRange version r)
    (h : type.layout version r l offset = some chunks)
    (hshort : Short chunks) (hahead : b.Ahead chunks.flatten)
    (hp : b.p = offset + start) :
    type.read version (l.shift start) b g =
      some (b.advance chunks.flatten.length,
        type.overwrite version r g) := by
  have hin := hbounded.boundedIn version r
  exact read_to_end hconditions hin.endsLast
    (counted_of_counts hcounts hforce hrange) hpads hlengths hrange h hshort
    hahead (Or.inl hin) hp

end Struct

end Packet
end Rzu
