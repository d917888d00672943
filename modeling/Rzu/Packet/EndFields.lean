import Rzu.Packet.FrontFields
import Rzu.Packet.RoundTrip

/-!
# Round trip of the last field

A string, an array of bytes or an array of structs that extends to the end of
the packet is read back, and the packet is consumed to its last byte.  The
cursor is left short of the end by an array of anything wider.
-/

namespace Rzu
namespace Packet

open Library MessageBuffer

namespace Struct

/-- The first line is active and extends to the end. -/
def Leads (version : Version) : Struct -> Record -> Prop
  | nil, _ => True
  | field _ cond metatype _, r =>
      cond version r = true ∧ metatype.isBounded = false
  | object _ cond shape _ _, r =>
      cond version r = true ∧ shape.isBounded = false

/-- The line is the last active one; objects in it are bounded. -/
def EndsWith (version : Version) : Struct -> Record -> Prop
  | nil, _ => False
  | field _ _ _ rest, r => rest.Silent version r
  | object name _ _ type rest, r =>
      (forall item, item ∈ r.objectVector name ->
        type.BoundedIn version item ∧ type.InRange version item ∧
          forall chunks,
            type.layout version item Locals.initial 0 = some chunks ->
              0 < chunks.flatten.length) ∧ rest.Silent version r

/-- The field of the line is the same. -/
def SameEnd (version : Version) : Struct -> Record -> Record -> Prop
  | nil, _, _ => True
  | field name _ metatype _, r, g => metatype.Agrees name r g
  | object name _ _ type _, r, g =>
      List.Forall₂ (fun r g => type.Agrees version r g)
        (r.objectVector name) (g.objectVector name)

end Struct

/--
An array of primitives at the end comes back if it is empty, or if its elements
are bytes that the member can hold.  A string comes back if no default of a
line behind it is assigned to the same member.
-/
def Metatype.ComesBack (version : Version) (name : String) (r : Record)
    (rest : Struct) : Metatype -> Prop
  | endstring _ _ =>
      r.string name = (rest.overwrite version r r).string name
  | endarray type member => r.vector name = [] ∨ type.size = 1 ∧
      forall val, val ∈ r.vector name ->
        convert type member (type.encode val) = val
  | _ => True

/--
An array of structs comes back if nothing was read into its member before, and
if in each struct no default spoils a field that is active.
-/
def Struct.EndComesBack (version : Version) (objectVectors : List String) :
    Struct -> Record -> Prop
  | nil, _ => True
  | field name _ metatype rest, r => metatype.ComesBack version name r rest
  | object name _ _ type _, r =>
      (name ∈ objectVectors -> r.objectVector name = []) ∧
        forall item, item ∈ r.objectVector name ->
          type.Agrees version item (type.overwrite version item Record.zero)

namespace Struct

variable {version : Version} {type : Struct} {r : Record}

theorem tail_leads (version : Version) (type : Struct) (r : Record) :
    (type.tail version r).Leads version r := by
  induction type with
  | nil => trivial
  | field name cond metatype rest ih =>
      rw [tail]
      split
      · rename_i hend
        exact hend
      · exact ih
  | object name cond shape type rest ihtype ihrest =>
      rw [tail]
      split
      · rename_i hend
        exact hend
      · exact ihrest

theorem VersionConditions.tail (h : type.VersionConditions)
    (version : Version) (r : Record) :
    (type.tail version r).VersionConditions := by
  induction type with
  | nil => trivial
  | field name cond metatype rest ih =>
      rw [Struct.tail]
      split
      · exact h
      · exact ih h.right
  | object name cond shape type rest ihtype ihrest =>
      rw [Struct.tail]
      split
      · exact h
      · exact ihrest h.right.right

theorem Silent.overwrite_vectors {type : Struct}
    (h : type.Silent version r) (g : Record) :
    (type.overwrite version r g).vector = g.vector ∧
      (type.overwrite version r g).objectVector = g.objectVector := by
  induction type generalizing g with
  | nil => exact ⟨rfl, rfl⟩
  | field name cond metatype rest ih =>
      rw [overwrite, if_neg h.left]
      rcases ih h.right (metatype.copyDefaultValue name g) with
        ⟨hvector, hobjects⟩
      rw [hvector, hobjects]
      unfold Metatype.copyDefaultValue
      split
      all_goals exact ⟨rfl, rfl⟩
  | object name cond shape type rest ihtype ihrest =>
      rw [overwrite, if_neg h.left]
      rcases ihrest h.right (shape.copyDefaultValue name g) with
        ⟨hvector, hobjects⟩
      rw [hvector, hobjects]
      unfold Shape.copyDefaultValue
      split
      all_goals exact ⟨rfl, rfl⟩

end Struct

/-!
## Arrays of primitives
-/

theorem MessageBuffer.readEndArray_moves {T U : IntType} {val : List Int}
    {b : MessageBuffer} (h : b.AtEnd (val.flatMap T.encode))
    (hsmall : (val.flatMap T.encode).length < 65536) (fieldName : String)
    (old : List Int) :
    b.readEndArray T U fieldName old =
      some (b.advance val.length,
        val.map fun x => convert T U (T.encode x)) := by
  have hlength := flatMap_encode_length T val
  have hpos := T.positive
  have hcount : val.length ≤ (val.flatMap T.encode).length := by
    rw [hlength]
    exact Nat.le_mul_of_pos_left _ hpos
  have hload := h.ahead.load_all
  have hroom : b.Room val.length := h.room.mono hcount
  have hcheck := checkAvailableBuffer_room hroom
    (Nat.lt_of_le_of_lt hcount hsmall) fieldName
  rw [hlength] at hload
  rw [readEndArray, h.remainingSize, hlength, Nat.mul_div_cancel_left _ hpos]
  simp only [hcheck, hload, Option.bind_eq_bind, Option.bind_some,
    Option.pure_def]
  congr 2
  apply List.ext_getElem
  · simp
  · intro i hi hi'
    have hlt : i < val.length := by simpa using hi'
    rw [List.getElem_map, List.getElem_range, List.getElem_map,
      slice_flatMap T hlt]

theorem width_of_end {T : IntType} {val : List Int} :
    val.length = (val.flatMap T.encode).length ↔ val = [] ∨ T.size = 1 := by
  rw [flatMap_encode_length]
  constructor
  · intro heq
    cases val with
    | nil => exact Or.inl rfl
    | cons x rest =>
        refine Or.inr (Nat.eq_of_mul_eq_mul_right
          (Nat.succ_pos rest.length) ?_)
        rw [Nat.one_mul]
        exact heq.symm
  · intro hcases
    rcases hcases with hnil | hone
    · rw [hnil]
      rfl
    · rw [hone, Nat.one_mul]

theorem map_eq_self_iff {f : Int -> Int} {val : List Int} :
    val = val.map f ↔ forall x, x ∈ val -> f x = x := by
  induction val with
  | nil => simp
  | cons x rest ih =>
      rw [List.map_cons, List.cons_eq_cons, ih, List.forall_mem_cons]
      constructor
      · intro h
        exact ⟨h.left.symm, h.right⟩
      · intro h
        exact ⟨h.left.symm, h.right⟩

/-!
## Arrays of structs
-/

theorem overwriteEach_new_iff {overwrite : Record -> Record -> Record}
    {agrees : Record -> Record -> Prop} {items : List Record} :
    List.Forall₂ agrees items (overwriteEach overwrite items
        (List.replicate items.length Record.zero)) ↔
      forall item, item ∈ items ->
        agrees item (overwrite item Record.zero) := by
  induction items with
  | nil =>
      constructor
      · intro _ item hmem
        exact absurd hmem List.not_mem_nil
      · intro _
        exact List.Forall₂.nil
  | cons item items ih =>
      rw [List.length_cons, List.replicate_succ, overwriteEach,
        List.forall₂_cons, ih, List.forall_mem_cons]

theorem appended_iff {overwrite : Record -> Record -> Record}
    {agrees : Record -> Record -> Prop} {before items : List Record} :
    List.Forall₂ agrees items (before ++ overwriteEach overwrite items
        (List.replicate items.length Record.zero)) ↔
      before = [] ∧
        forall item, item ∈ items ->
          agrees item (overwrite item Record.zero) := by
  constructor
  · intro h
    have hlength := h.length_eq
    rw [List.length_append, overwriteEach_length overwrite
      List.length_replicate.symm] at hlength
    have hbefore : before = [] := List.length_eq_zero_iff.mp (by lia)
    subst hbefore
    exact ⟨rfl, overwriteEach_new_iff.mp h⟩
  · rintro ⟨hbefore, hall⟩
    subst hbefore
    exact overwriteEach_new_iff.mpr hall

/-!
## Reading the last line
-/

namespace Struct

variable {version : Version} {r : Record}

/--
What the last line reads: the cursor moves, and it reaches the end with the
field as it was exactly if the field comes back.
-/
def ReadsEnd (version : Version) (type : Struct) (r : Record)
    (objectVectors : List String) (l : Locals) (b : MessageBuffer)
    (g : Record) (size : Nat) : Prop :=
  exists n g', n ≤ size ∧ type.read version l b g = some (b.advance n, g') ∧
    (n = size ∧ type.SameEnd version r g' ↔
      type.EndComesBack version objectVectors r)

theorem readsEnd_field {name : String} {cond : Condition}
    {metatype : Metatype} {rest : Struct} {l : Locals}
    {offset start : Nat} {back : List (List UInt8)} {b : MessageBuffer}
    (hversion : (field name cond metatype rest).VersionConditions)
    (hleads : (field name cond metatype rest).Leads version r)
    (hsilent : rest.Silent version r)
    (h : (field name cond metatype rest).layout version r l offset =
      some back) (hshort : Short back) (hatEnd : b.AtEnd back.flatten)
    (objectVectors : List String) (g : Record) :
    (field name cond metatype rest).ReadsEnd version r objectVectors
      (l.shift start) b g back.flatten.length := by
  rcases hleads with ⟨hactive, hunbounded⟩
  rw [Struct.layout, if_pos hactive] at h
  rcases Option.bind_eq_some_iff.mp h with ⟨line, hline, hafter⟩
  rcases Option.bind_eq_some_iff.mp hafter with ⟨later, hlater, hpair⟩
  rw [hsilent.layout] at hlater
  cases hlater
  cases hpair
  have hone : [line.2].flatten = line.2 := List.flatten_singleton
  have hsmall := hshort _ List.mem_cons_self
  rw [hone] at hatEnd ⊢
  have hrest (l : Locals) (b : MessageBuffer) (g : Record) :
      rest.read version l b g = some (b, rest.overwrite version r g) :=
    hsilent.read (hversion.right.same version r g) l b
  have hsame := hversion.left version g r
  cases metatype with
  | endstring hasNullTerminator defaultval =>
      cases hline
      refine ⟨(r.string name ++
          List.replicate hasNullTerminator.toNat 0).length,
        rest.overwrite version r (g.setString name (r.string name)),
        Nat.le_refl _, ?_, ?_⟩
      · rw [Struct.read, hsame, if_pos hactive, Metatype.read,
          readEndString_atEnd hatEnd hsmall, Option.map_some,
          Option.bind_eq_bind, Option.bind_some, hrest]
      · have hassigned : (g.setString name (r.string name)).string name =
            r.string name := by
          rw [Record.string_setString, if_pos rfl]
        have hkept := (Preserves.overwrite version rest r
          (g.setString name (r.string name)) r).string name hassigned
        change _ ∧ r.string name = (rest.overwrite version r
          (g.setString name (r.string name))).string name ↔
            r.string name = (rest.overwrite version r r).string name
        rw [hkept]
        exact ⟨fun hboth => hboth.right, fun hback => ⟨rfl, hback⟩⟩
  | endarray type member =>
      cases hline
      refine ⟨(r.vector name).length, rest.overwrite version r
        (g.setVector name ((r.vector name).map fun x =>
          convert type member (type.encode x))), ?_, ?_, ?_⟩
      · change (r.vector name).length ≤
          ((r.vector name).flatMap type.encode).length
        rw [flatMap_encode_length]
        exact Nat.le_mul_of_pos_left _ type.positive
      · rw [Struct.read, hsame, if_pos hactive, Metatype.read,
          readEndArray_moves hatEnd hsmall, Option.map_some,
          Option.bind_eq_bind, Option.bind_some, hrest]
      · change (r.vector name).length = _ ∧
          r.vector name = (rest.overwrite version r
            (g.setVector name _)).vector name ↔ _
        rw [(hsilent.overwrite_vectors _).left, Record.vector_setVector,
          if_pos rfl, width_of_end, map_eq_self_iff]
        constructor
        · rintro ⟨hnil | hone, hall⟩
          · exact Or.inl hnil
          · exact Or.inr ⟨hone, hall⟩
        · intro hback
          rcases hback with hnil | ⟨hone, hall⟩
          · refine ⟨Or.inl hnil, ?_⟩
            rw [hnil]
            intro val hval
            exact absurd hval List.not_mem_nil
          · exact ⟨Or.inr hone, hall⟩
  | simple | array | dynarray | count | string | dynstring | padmarker
  | pad => cases hunbounded

theorem readsEnd_object {name : String} {cond : Condition} {shape : Shape}
    {type rest : Struct} {l : Locals} {offset start : Nat}
    {back : List (List UInt8)} {b : MessageBuffer}
    {vectors objectVectors : List String}
    (hversion : (object name cond shape type rest).VersionConditions)
    (hleads : (object name cond shape type rest).Leads version r)
    (hends : (object name cond shape type rest).EndsWith version r)
    (hcounted : (object name cond shape type rest).Counted version r l)
    (hpads : (object name cond shape type rest).PadsKnown version r vectors
      objectVectors)
    (h : (object name cond shape type rest).layout version r l offset =
      some back) (hshort : Short back) (hatEnd : b.AtEnd back.flatten)
    {g : Record} (hempty : EmptyBut objectVectors g)
    (hlengths : forall name, name ∈ objectVectors ->
      (g.objectVector name).length = (r.objectVector name).length) :
    (object name cond shape type rest).ReadsEnd version r objectVectors
      (l.shift start) b g back.flatten.length := by
  rcases hleads with ⟨hactive, hunbounded⟩
  cases shape with
  | simple | array | dynarray => cases hunbounded
  | endarray =>
      rcases hends with ⟨hitems, hsilent⟩
      have hsame := hversion.left version g r
      rw [Struct.layout, if_pos hactive] at h
      rw [Counted, if_pos hactive] at hcounted
      rw [PadsKnown, if_pos hactive] at hpads
      rw [Shape.elements_counted hcounted.left, Option.bind_eq_bind,
        Option.bind_some] at h
      rcases Option.bind_eq_some_iff.mp h with ⟨objects, hobjects, hafter⟩
      rcases Option.bind_eq_some_iff.mp hafter with ⟨later, hlater, hpair⟩
      rw [hsilent.layout] at hlater
      cases hlater
      cases hpair
      rw [List.append_nil] at hshort hatEnd ⊢
      have hitem : forall (b : MessageBuffer) (item old : Record)
          (chunks : List (List UInt8)), item ∈ r.objectVector name ->
            type.layout version item Locals.initial 0 = some chunks ->
              Short chunks -> b.Ahead chunks.flatten ->
                type.read version Locals.initial b old =
                  some (b.advance chunks.flatten.length,
                    type.overwrite version item old) := by
        intro b item old chunks hmem hlayout hshort hahead
        rcases hitems item hmem with ⟨hin, hrange, -⟩
        have hread : type.read version (Locals.initial.shift b.p) b old =
            some (b.advance chunks.flatten.length,
              type.overwrite version item old) :=
          read_to_end (hversion.right.left.same version item old) hin.endsLast
            (hcounted.right.left item hmem) (hpads.left item hmem)
            ⟨fun _ hc => absurd hc List.not_mem_nil,
              fun _ hc => absurd hc List.not_mem_nil⟩ hrange hlayout hshort
            hahead (Or.inl hin) (Nat.zero_add b.p).symm
        exact hread
      have hread := read_objects_atEnd (g := g) hitem
        (fun item hmem => (hitems item hmem).right.right) hobjects hshort
        hatEnd (l.shift start)
      refine ⟨objects.flatten.flatten.length, rest.overwrite version r
        (Shape.endarray.restore (fun r g => type.overwrite version r g) name
          r g), Nat.le_refl _, ?_, ?_⟩
      · rw [Struct.read, hsame, if_pos hactive]
        simp only [Option.bind_eq_bind]
        rw [hread, Option.bind_some,
          hsilent.read (hversion.right.right.same version r _)]
      · rw [SameEnd, EndComesBack, (hsilent.overwrite_vectors _).right,
          Shape.restore, Record.objectVector_setObjectVector, if_pos rfl,
          appended_iff]
        constructor
        · rintro ⟨-, hbefore, hall⟩
          refine ⟨?_, hall⟩
          intro hmem
          have hlength := hlengths name hmem
          rw [hbefore] at hlength
          exact List.length_eq_zero_iff.mp hlength.symm
        · rintro ⟨hfirst, hall⟩
          refine ⟨rfl, ?_, hall⟩
          by_cases hmem : name ∈ objectVectors
          · have hlength := hlengths name hmem
            rw [hfirst hmem] at hlength
            exact List.length_eq_zero_iff.mp hlength
          · exact hempty name hmem

theorem readsEnd {type : Struct} {l : Locals} {offset start : Nat}
    {back : List (List UInt8)} {b : MessageBuffer}
    {vectors objectVectors : List String}
    (hversion : type.VersionConditions) (hleads : type.Leads version r)
    (hends : type.EndsWith version r) (hcounted : type.Counted version r l)
    (hpads : type.PadsKnown version r vectors objectVectors)
    (h : type.layout version r l offset = some back) (hshort : Short back)
    (hatEnd : b.AtEnd back.flatten) {g : Record}
    (hempty : EmptyBut objectVectors g)
    (hlengths : forall name, name ∈ objectVectors ->
      (g.objectVector name).length = (r.objectVector name).length) :
    type.ReadsEnd version r objectVectors (l.shift start) b g
      back.flatten.length := by
  cases type with
  | nil => cases hends
  | field name cond metatype rest =>
      exact readsEnd_field hversion hleads hends h hshort hatEnd _ g
  | object name cond shape type rest =>
      exact readsEnd_object hversion hleads hends hcounted hpads h hshort
        hatEnd hempty hlengths

end Struct

/-!
## Packets
-/

namespace PacketType

variable {packet : PacketType} {version : Version} {r : Record}
variable {chunks : List (List UInt8)}

theorem deserialize_behind (packet : PacketType) (version : Version)
    (chunks : List (List UInt8))
    (hroom : 7 + chunks.flatten.length < 2 ^ 32) :
    ((MessageBuffer.create (packet.bytes version chunks)).advance 7).AtEnd
        chunks.flatten ∧
      exists receivedId, forall g,
        packet.deserialize version
            (MessageBuffer.create (packet.bytes version chunks)) 0 g =
          (packet.fields.deserialize version
            ((MessageBuffer.create
              (packet.bytes version chunks)).advance 7) g).map fun body =>
                (body.1, receivedId, body.2) := by
  have hsize : (MessageBuffer.create
      (packet.bytes version chunks)).getSize = 7 + chunks.flatten.length := by
    change (packet.bytes version chunks).length % 2 ^ 32 = _
    rw [bytes_length, Nat.mod_eq_of_lt hroom]
  have hatEnd : (MessageBuffer.create (packet.bytes version chunks)).AtEnd
      (header (7 + chunks.flatten.length) (packet.getId version).toNat ++
        chunks.flatten) := by
    refine ⟨⟨rfl, ?_⟩, rfl⟩
    rw [List.length_append, header_length, hsize]
    exact Nat.le_of_eq (Nat.zero_add _)
  rcases readHeader_ahead hatEnd.ahead.front 0 with ⟨receivedId, hheader⟩
  have hback := hatEnd.back
  rw [header_length] at hback
  refine ⟨hback, receivedId, ?_⟩
  intro g
  rw [deserialize, hheader, Option.bind_eq_bind, Option.bind_some]
  cases packet.fields.deserialize version _ g with
  | none => rfl
  | some body => rfl

theorem checkPacketFinalSize_iff (packet : PacketType) (version : Version)
    (hroom : 7 + chunks.flatten.length < 2 ^ 32) {n : Nat}
    (hn : n ≤ chunks.flatten.length) :
    (((MessageBuffer.create (packet.bytes version chunks)).advance 7).advance
      n).checkPacketFinalSize = true ↔ n = chunks.flatten.length := by
  have hmsg : leNat ((packet.bytes version chunks).take 4) =
      7 + chunks.flatten.length := msgSize_bytes hroom
  have hsize : (packet.bytes version chunks).length % 2 ^ 32 =
      7 + chunks.flatten.length := by
    rw [bytes_length, Nat.mod_eq_of_lt hroom]
  have hparsed : (0 + 7 + n) % 2 ^ 32 = 7 + n := by
    rw [Nat.zero_add, Nat.mod_eq_of_lt (by lia)]
  change (true && leNat ((packet.bytes version chunks).take 4) ==
    (packet.bytes version chunks).length % 2 ^ 32 &&
      (0 + 7 + n) % 2 ^ 32 == leNat ((packet.bytes version chunks).take 4)) =
        true ↔ _
  rw [hmsg, hsize, hparsed, beq_self_eq_true, Bool.true_and, Bool.true_and,
    beq_iff_eq]
  exact Nat.add_left_cancel_iff

/-- A packet whose last active field extends to its end. -/
structure Trailing (packet : PacketType) (version : Version) (r : Record) :
    Prop where
  markers : packet.fields.MarkersDeclared []
  conditions : packet.fields.VersionConditions
  counted : packet.fields.Counted version r Locals.initial
  pads : packet.fields.PadsKnown version r [] []
  sizes : packet.fields.SizesFit version r
  front : packet.fields.FrontBounded version r
  ends : (packet.fields.tail version r).EndsWith version r
  short : forall size, size ∈ packet.fieldSizes version r -> size < 65536
  total : 7 + (packet.fieldSizes version r).sum < 2 ^ 32

/-- A packet is received to its last byte, with the same last field. -/
def EndRoundTrips (packet : PacketType) (version : Version) (r g : Record)
    (garbage : Nat -> UInt8) : Prop :=
  exists bytes b receivedId g',
    packet.sendPacket version r garbage = some (SendResult.written bytes) ∧
      packet.deserialize version (MessageBuffer.create bytes) 0 g =
        some (b, receivedId, g') ∧
      b.checkPacketFinalSize = true ∧
        (packet.fields.tail version r).SameEnd version r g'

theorem Trailing.received (h : packet.Trailing version r) {g : Record}
    (hnew : forall name, g.objectVector name = []) (garbage : Nat -> UInt8) :
    exists bytes b receivedId g',
      packet.sendPacket version r garbage =
        some (SendResult.written bytes) ∧
      packet.deserialize version (MessageBuffer.create bytes) 0 g =
        some (b, receivedId, g') ∧
      (b.checkPacketFinalSize = true ∧
        (packet.fields.tail version r).SameEnd version r g' ↔
          (packet.fields.tail version r).EndComesBack version
            (packet.fields.frontObjects version r) r) := by
  rcases Struct.exists_layout 7 h.markers (fun marker hmem => nomatch hmem)
      h.sizes.haveRoom (Locals.Similar.refl _) h.counted.enough with
    ⟨chunks, hlayout⟩
  have hchunks : packet.layout version r = some chunks := hlayout
  have hsmall := h.short
  have htotal := h.total
  rw [fieldSizes, hchunks, Option.getD_some] at hsmall htotal
  rw [← List.length_flatten] at htotal
  have hshort : Struct.Short chunks := fun chunk hchunk =>
    hsmall chunk.length (List.mem_map_of_mem hchunk)
  have hsent := sendPacket_layout hchunks hshort htotal garbage
  rcases deserialize_behind packet version chunks htotal with
    ⟨hatEnd, receivedId, hdeserialize⟩
  -- everything in front of the last line is consumed
  have hp : ((MessageBuffer.create
      (packet.bytes version chunks)).advance 7).p = 7 + 0 := rfl
  rcases Struct.read_front (g := g) h.conditions h.front h.counted h.pads
      ⟨fun _ hc => absurd hc List.not_mem_nil,
        fun _ hc => absurd hc List.not_mem_nil⟩
      h.sizes hlayout hshort hatEnd.ahead hp with
    ⟨front, back, l', g₁, hfront⟩
  rcases hfront.pads with ⟨vectors, hpads⟩
  have hsplit := hfront.split
  have hobjects := hfront.lengths
  have hempty := hfront.empty fun name _ => hnew name
  rw [List.append_nil] at hpads hobjects hempty
  subst hsplit
  rw [List.flatten_append] at hatEnd
  have hend : (packet.fields.tail version r).ReadsEnd version r
      (packet.fields.frontObjects version r) (l'.shift 0) _ g₁
        back.flatten.length :=
    Struct.readsEnd (h.conditions.tail version r)
      (packet.fields.tail_leads version r) h.ends hfront.counted hpads
      hfront.layout
      (fun chunk hchunk => hshort chunk (List.mem_append_right _ hchunk))
      hatEnd.back hempty hobjects
  rcases hend with ⟨n, g', hle, hread, hback⟩
  have hreceived := hdeserialize g
  have hfields : packet.fields.deserialize version
      ((MessageBuffer.create
        (packet.bytes version (front ++ back))).advance 7) g = _ :=
    hfront.read.trans hread
  rw [hfields, advance_advance, Option.map_some] at hreceived
  have hlength : (front ++ back).flatten.length =
      front.flatten.length + back.flatten.length := by
    rw [List.flatten_append, List.length_append]
  have hfinal := checkPacketFinalSize_iff packet version htotal
    (n := front.flatten.length + n) (by lia)
  rw [hlength, Nat.add_left_cancel_iff] at hfinal
  refine ⟨_, _, receivedId, g', hsent, hreceived, ?_⟩
  rw [← hback, hfinal]

/--
A packet is consumed to its last byte and its last field is the same exactly
if that field comes back.
-/
theorem endRoundTrips_iff (h : packet.Trailing version r) {g : Record}
    (hnew : forall name, g.objectVector name = []) (garbage : Nat -> UInt8) :
    packet.EndRoundTrips version r g garbage ↔
      (packet.fields.tail version r).EndComesBack version
        (packet.fields.frontObjects version r) r := by
  rcases h.received hnew garbage with
    ⟨bytes, b, receivedId, g', hsent, hreceived, hback⟩
  rw [← hback]
  constructor
  · rintro ⟨bytes', b', id, found, hsent', hreceived', hcheck, hsame⟩
    cases hsent.symm.trans hsent'
    cases hreceived.symm.trans hreceived'
    exact ⟨hcheck, hsame⟩
  · rintro ⟨hcheck, hsame⟩
    exact ⟨bytes, b, receivedId, g', hsent, hreceived, hcheck, hsame⟩

end PacketType

/-!
## Arrays of bytes, and arrays of wider elements
-/

def arrayPacket (T : IntType) : PacketType where
  getId _ := 1
  fields := Struct.field "values" always (Metatype.endarray T T) Struct.nil

def values (val : List Int) : Record :=
  Record.zero.setVector "values" val

theorem arrayPacket_layout (T : IntType) (version : Version)
    (val : List Int) :
    (arrayPacket T).layout version (values val) =
      some [val.flatMap T.encode] := by
  change (arrayPacket T).fields.layout version (values val) Locals.initial 7 =
    _
  rw [arrayPacket, Struct.layout, if_pos (always_eq version (values val))]
  change some [((values val).vector "values").flatMap T.encode] = _
  rw [values, Record.vector_setVector, if_pos rfl]

theorem arrayPacket_trailing (T : IntType) (version : Version)
    {val : List Int} (hsmall : T.size * val.length < 65536) :
    (arrayPacket T).Trailing version (values val) := by
  have hsizes : (arrayPacket T).fieldSizes version (values val) =
      [T.size * val.length] := by
    rw [PacketType.fieldSizes, arrayPacket_layout, Option.getD_some,
      List.map_singleton, flatMap_encode_length]
  refine ⟨⟨?_, ?_, trivial⟩, ⟨fun _ _ _ => rfl, trivial⟩, ?_, ?_,
    ⟨fun _ => trivial, trivial⟩, Or.inl ⟨rfl, rfl⟩, trivial, ?_, ?_⟩
  · intro hpad
    cases hpad
  · intro hpad
    cases hpad
  · exact ⟨trivial, trivial⟩
  · exact ⟨trivial, trivial⟩
  · intro size hsize
    rw [hsizes] at hsize
    rw [List.mem_singleton.mp hsize]
    exact hsmall
  · rw [hsizes, List.sum_singleton]
    lia

theorem endRoundTrips_iff_bytes :
    (arrayPacket uint8).EndRoundTrips EPIC_9_6_7 (values [1, 2]) Record.zero
        (fun _ => 0) ↔
      ((arrayPacket uint8).fields.tail EPIC_9_6_7
        (values [1, 2])).EndComesBack EPIC_9_6_7
          ((arrayPacket uint8).fields.frontObjects EPIC_9_6_7
            (values [1, 2])) (values [1, 2]) :=
  PacketType.endRoundTrips_iff
    (arrayPacket_trailing uint8 EPIC_9_6_7 (by decide)) (fun _ => rfl) _

/-- One number of two bytes: the cursor is one byte short of the end. -/
theorem not_endRoundTrips_wide :
    ¬forall packet version r g garbage,
      PacketType.Trailing packet version r ->
        (forall name, g.objectVector name = []) ->
          packet.EndRoundTrips version r g garbage := by
  intro h
  have htrailing : (arrayPacket uint16).Trailing EPIC_9_6_7 (values [1]) :=
    arrayPacket_trailing uint16 EPIC_9_6_7 (by decide)
  have hnew : forall name, Record.zero.objectVector name = [] :=
    fun _ => rfl
  rcases htrailing.received hnew (fun _ => 0) with
    ⟨bytes, b, receivedId, g', hsent, hreceived, hback⟩
  rcases h _ _ _ _ (fun _ => 0) htrailing hnew with
    ⟨bytes', b', id, found, hsent', hreceived', hcheck, hsame⟩
  cases hsent.symm.trans hsent'
  cases hreceived.symm.trans hreceived'
  rcases hback.mp ⟨hcheck, hsame⟩ with hnil | ⟨hone, -⟩
  · rw [values, Record.vector_setVector, if_pos rfl] at hnil
    cases hnil
  · cases hone

end Packet
end Rzu
