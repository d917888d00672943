import Rzu.Packet.RoundTrip

/-!
# Widths of the fields of a packet

The width of every field can be read off the declaration and the value; a
packet is sent if its fields are narrow enough.
-/

namespace Rzu
namespace Packet

open Library

/-- The most bytes that a field takes. -/
def Metatype.width (name : String) (r : Record) : Metatype -> Nat
  | simple type _ _ => type.size
  | array type _ n _ => type.size * n
  | dynarray type _ => type.size * (r.vector name).length
  | count type _ _ => type.size
  | string n _ => n
  | dynstring hasNullTerminator _ =>
      (r.string name).length + hasNullTerminator.toNat
  | padmarker => 0
  | pad n => n r
  | endstring hasNullTerminator _ =>
      (r.string name).length + hasNullTerminator.toNat
  | endarray type _ => type.size * (r.vector name).length

/-- The widths of the active fields, those of objects included. -/
def Struct.widths (version : Version) : Struct -> Record -> List Nat
  | nil, _ => []
  | field name cond metatype rest, r =>
      if cond version r then
        metatype.width name r :: rest.widths version r
      else rest.widths version r
  | object name cond shape type rest, r =>
      if cond version r then
        (shape.items name r).flatMap (fun item => type.widths version item) ++
          rest.widths version r
      else rest.widths version r

/-- No marker lies ahead. -/
def Locals.MarkersBefore (l : Locals) (offset : Nat) : Prop :=
  forall name marker, l.marker name = some marker -> marker ≤ offset

/-- Every field is as long as its width says, or shorter. -/
def Within (chunks : List (List UInt8)) (widths : List Nat) : Prop :=
  List.Forall₂ (fun chunk width => chunk.length ≤ width) chunks widths

namespace Within

variable {chunks : List (List UInt8)} {widths : List Nat}

theorem sum (h : Within chunks widths) :
    (chunks.map List.length).sum ≤ widths.sum := by
  induction h with
  | nil => exact Nat.le_refl _
  | cons hchunk hchunks ih =>
      rw [List.map_cons, List.sum_cons, List.sum_cons]
      exact Nat.add_le_add hchunk ih

theorem short (h : Within chunks widths) {bound : Nat}
    (hwidths : forall width, width ∈ widths -> width < bound) :
    forall size, size ∈ chunks.map List.length -> size < bound := by
  induction h with
  | nil =>
      intro size hmem
      cases hmem
  | cons hchunk hchunks ih =>
      intro size hmem
      rcases List.mem_cons.mp hmem with heq | hrest
      · subst heq
        exact Nat.lt_of_le_of_lt hchunk (hwidths _ List.mem_cons_self)
      · exact ih (fun width hwidth =>
          hwidths width (List.mem_cons_of_mem _ hwidth)) size hrest

end Within

theorem Locals.MarkersBefore.mono {l : Locals} {offset offset' : Nat}
    (h : l.MarkersBefore offset) (hle : offset ≤ offset') :
    l.MarkersBefore offset' :=
  fun name marker hmarker => Nat.le_trans (h name marker hmarker) hle

theorem Metatype.layout_within {metatype : Metatype} {name : String}
    {r : Record} {l l' : Locals} {offset : Nat} {bytes : List UInt8}
    (h : metatype.layout name r l offset = some (l', bytes))
    (hcounted : metatype.Counted name r l)
    (hmarkers : l.MarkersBefore offset) :
    bytes.length ≤ metatype.width name r ∧
      l'.MarkersBefore (offset + bytes.length) := by
  have hbefore := hmarkers.mono (Nat.le_add_right offset bytes.length)
  cases metatype with
  | simple type member defaultval =>
      cases h
      exact ⟨Nat.le_of_eq (IntType.encode_length _ _), hbefore⟩
  | array type member n defaultval =>
      cases h
      exact ⟨Nat.le_of_eq (array_encode_length _ _ _), hbefore⟩
  | dynarray type member =>
      rw [layout, hcounted, if_pos (Nat.le_refl _), List.take_length] at h
      cases h
      exact ⟨Nat.le_of_eq (flatMap_encode_length _ _), hbefore⟩
  | count type ref defaultval =>
      cases h
      exact ⟨Nat.le_of_eq (IntType.encode_length _ _), hbefore⟩
  | string n defaultval =>
      rw [layout] at h
      split at h
      · cases h
      · rename_i hfits
        cases h
        exact ⟨Nat.le_of_eq (string_layout_length hfits), hbefore⟩
  | dynstring hasNullTerminator defaultval =>
      rw [layout] at h
      split at h
      · cases h
        refine ⟨?_, hbefore⟩
        rw [List.length_take, hcounted]
        exact Nat.min_le_left _ _
      · cases h
  | padmarker =>
      cases h
      refine ⟨Nat.le_refl _, ?_⟩
      intro other marker hmarker
      by_cases heq : other = name
      · subst heq
        change Function.update l.marker other (some offset) other = _
          at hmarker
        rw [Function.update_self] at hmarker
        cases hmarker
        exact Nat.le_refl _
      · change Function.update l.marker name (some offset) other = _
          at hmarker
        rw [Function.update_of_ne heq] at hmarker
        exact hmarkers other marker hmarker
  | pad n =>
      rcases Option.map_eq_some_iff.mp h with ⟨marker, hmarker, hpair⟩
      cases hpair
      refine ⟨?_, hbefore⟩
      have hle := hmarkers name marker hmarker
      rw [List.length_replicate, width]
      lia
  | endstring hasNullTerminator defaultval =>
      cases h
      refine ⟨Nat.le_of_eq ?_, hbefore⟩
      rw [List.length_append, List.length_replicate, width]
  | endarray type member =>
      cases h
      exact ⟨Nat.le_of_eq (flatMap_encode_length _ _), hbefore⟩

theorem Struct.skip_markersBefore {l : Locals} {offset : Nat}
    (h : l.MarkersBefore offset) (metatype : Metatype) (name : String) :
    (metatype.skip name l).MarkersBefore offset := by
  unfold Metatype.skip
  split
  · exact h
  · exact h

namespace Struct

variable {version : Version}

theorem mapM_within {layoutOf : Record -> Option (List (List UInt8))}
    {widthsOf : Record -> List Nat} {items : List Record}
    (hitem : forall item, item ∈ items -> forall chunks,
      layoutOf item = some chunks -> Within chunks (widthsOf item))
    {objects : List (List (List UInt8))}
    (h : items.mapM layoutOf = some objects) :
    Within objects.flatten (items.flatMap widthsOf) := by
  induction items generalizing objects with
  | nil =>
      cases h
      exact List.Forall₂.nil
  | cons item items ih =>
      rw [List.mapM_cons] at h
      rcases Option.bind_eq_some_iff.mp h with ⟨first, hfirst, hrest⟩
      rcases Option.bind_eq_some_iff.mp hrest with ⟨later, hlater, hpair⟩
      cases hpair
      rw [List.flatten_cons, List.flatMap_cons]
      exact List.rel_append (hitem item List.mem_cons_self first hfirst)
        (ih (fun other hmem => hitem other (List.mem_cons_of_mem _ hmem))
          hlater)

theorem layout_within {type : Struct} {r : Record} {l : Locals}
    {offset : Nat} {chunks : List (List UInt8)}
    (h : type.layout version r l offset = some chunks)
    (hcounted : type.Counted version r l)
    (hmarkers : l.MarkersBefore offset) :
    Within chunks (type.widths version r) := by
  induction type generalizing r l offset chunks with
  | nil =>
      cases h
      exact List.Forall₂.nil
  | field name cond metatype rest ih =>
      rw [layout] at h
      rw [Counted] at hcounted
      rw [widths]
      split at h
      · rename_i hactive
        rw [if_pos hactive] at hcounted ⊢
        rcases Option.bind_eq_some_iff.mp h with ⟨line, hline, hafter⟩
        rcases Option.bind_eq_some_iff.mp hafter with ⟨later, hlater, hpair⟩
        cases hpair
        have hwithin := Metatype.layout_within hline hcounted.left hmarkers
        have hsize : line.1.size = (metatype.declare name r l).size :=
          Metatype.layout_size hline
        exact List.Forall₂.cons hwithin.left
          (ih hlater (hcounted.right.of_size hsize) hwithin.right)
      · rename_i hinactive
        rw [if_neg hinactive] at hcounted ⊢
        exact ih h hcounted (skip_markersBefore hmarkers metatype name)
  | object name cond shape type rest ihtype ihrest =>
      rw [layout] at h
      rw [Counted] at hcounted
      rw [widths]
      split at h
      · rename_i hactive
        rw [if_pos hactive] at hcounted ⊢
        rw [Shape.elements_counted hcounted.left, Option.bind_eq_bind,
          Option.bind_some] at h
        rcases Option.bind_eq_some_iff.mp h with ⟨objects, hobjects, hafter⟩
        rcases Option.bind_eq_some_iff.mp hafter with
          ⟨later, hlater, hpair⟩
        cases hpair
        apply List.rel_append
        · apply mapM_within _ hobjects
          intro item hitem chunks hlayout
          exact ihtype hlayout (hcounted.right.left item hitem)
            (fun _ _ hmarker => absurd hmarker.symm (Option.some_ne_none _))
        · exact ihrest hlater hcounted.right.right
            (hmarkers.mono (Nat.le_add_right _ _))
      · rename_i hinactive
        rw [if_neg hinactive] at hcounted ⊢
        exact ihrest h hcounted hmarkers

end Struct

namespace PacketType

variable {packet : PacketType} {version : Version} {r : Record}

theorem Sendable.of_widths (hmarkers : packet.fields.MarkersDeclared [])
    (hends : packet.fields.EndsLast version r)
    (hcounted : packet.fields.Counted version r Locals.initial)
    (hpads : packet.fields.PadsKnown version r [] [])
    (hrange : packet.fields.InRange version r)
    (hshort : forall width, width ∈ packet.fields.widths version r ->
      width < 65536)
    (htotal : 7 + (packet.fields.widths version r).sum < 2 ^ 32) :
    packet.Sendable version r := by
  rcases Struct.exists_layout 7 hmarkers
      (fun _ hmem => absurd hmem List.not_mem_nil)
      (Struct.haveRoom_of_inRange hrange) (Locals.Similar.refl _)
      hcounted.enough with
    ⟨chunks, hlayout⟩
  have hwithin : Within chunks (packet.fields.widths version r) :=
    Struct.layout_within hlayout hcounted
      (fun _ _ hmarker => absurd hmarker.symm (Option.some_ne_none _))
  have hsizes : packet.fieldSizes version r = chunks.map List.length := by
    have hchunks : packet.layout version r = some chunks := hlayout
    rw [fieldSizes, hchunks, Option.getD_some]
  have hsum := hwithin.sum
  exact {
    markers := hmarkers
    endsLast := hends
    counted := hcounted
    pads := hpads
    range := hrange
    short := by
      rw [hsizes]
      exact hwithin.short hshort
    total := by
      rw [hsizes]
      lia }

end PacketType

end Packet
end Rzu
