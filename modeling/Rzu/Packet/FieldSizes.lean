import Mathlib.Data.List.Forall2
import Rzu.Packet.Layout

/-!
# Sizes of the fields of a struct

The sizes of the fields of a struct can be read off its declaration.
-/

namespace Rzu
namespace Packet

open Library

namespace Struct

theorem layout_active {version : Version} {r : Record} {l : Locals}
    {offset : Nat} {name : String} {cond : Condition} {metatype : Metatype}
    {rest : Struct} {chunks : List (List UInt8)}
    (hactive : cond version r = true)
    (h : (field name cond metatype rest).layout version r l offset =
      some chunks) :
    exists l' bytes later,
      metatype.layout name r l offset = some (l', bytes) ∧
      rest.layout version r l' (offset + bytes.length) = some later ∧
      chunks = bytes :: later := by
  rw [layout, if_pos hactive] at h
  rcases Option.bind_eq_some_iff.mp h with ⟨⟨l', bytes⟩, hline, hrest⟩
  rcases Option.bind_eq_some_iff.mp hrest with ⟨later, hlater, hpair⟩
  cases hpair
  exact ⟨l', bytes, later, hline, hlater, rfl⟩

/-- The fields of a struct are laid out with some sizes. -/
def Sized (version : Version) (type : Struct) (r : Record) (l : Locals)
    (offset : Nat) (sizes : List Nat) : Prop :=
  exists chunks, type.layout version r l offset = some chunks ∧
    chunks.map List.length = sizes

namespace Sized

variable {version : Version} {r : Record} {l : Locals} {offset : Nat}
variable {name : String} {cond : Condition} {rest : Struct}
variable {sizes : List Nat}

theorem length {type : Struct} (h : type.Sized version r l offset sizes)
    {chunks : List (List UInt8)}
    (hlayout : type.layout version r l offset = some chunks) :
    chunks.flatten.length = sizes.sum := by
  rcases h with ⟨chunks', hlayout', hsizes⟩
  rw [hlayout] at hlayout'
  cases hlayout'
  rw [List.length_flatten, hsizes]

theorem nil : Struct.nil.Sized version r l offset [] := ⟨[], rfl, rfl⟩

theorem skip {metatype : Metatype} (hinactive : ¬cond version r = true)
    (h : rest.Sized version r (metatype.skip name l) offset sizes) :
    (Struct.field name cond metatype rest).Sized version r l offset
      sizes := by
  rcases h with ⟨chunks, hlayout, hsizes⟩
  refine ⟨chunks, ?_, hsizes⟩
  rw [layout, if_neg hinactive]
  exact hlayout

theorem cons {metatype : Metatype} {l' : Locals} {bytes : List UInt8}
    (hactive : cond version r = true)
    (hline : metatype.layout name r l offset = some (l', bytes))
    (h : rest.Sized version r l' (offset + bytes.length) sizes) :
    (Struct.field name cond metatype rest).Sized version r l offset
      (bytes.length :: sizes) := by
  rcases h with ⟨chunks, hlayout, hsizes⟩
  refine ⟨bytes :: chunks, ?_, ?_⟩
  · rw [layout, if_pos hactive, hline, Option.bind_eq_bind, Option.bind_some,
      hlayout]
    rfl
  · rw [List.map_cons, hsizes]

theorem simple {type member : IntType} {defaultval : Option Int}
    (hactive : cond version r = true)
    (h : rest.Sized version r l (offset + type.size) sizes) :
    (Struct.field name cond (Metatype.simple type member defaultval)
      rest).Sized version r l offset (type.size :: sizes) := by
  have hlength : (type.encode (r.integer name)).length = type.size :=
    IntType.encode_length _ _
  rw [← hlength]
  rw [← hlength] at h
  exact cons hactive rfl h

theorem array {type member : IntType} {n : Nat}
    {defaultval : Option (Nat -> Int)} (hactive : cond version r = true)
    (h : rest.Sized version r l (offset + type.size * n) sizes) :
    (Struct.field name cond (Metatype.array type member n defaultval)
      rest).Sized version r l offset (type.size * n :: sizes) := by
  have hlength := array_encode_length type (r.array name) n
  rw [← hlength]
  rw [← hlength] at h
  exact cons hactive rfl h

theorem count {type : IntType} {ref : Container} {defaultval : Option Nat}
    (hactive : cond version r = true)
    (h : rest.Sized version r
      (l.setSize name (getClampedCount type (ref.size r name)))
      (offset + type.size) sizes) :
    (Struct.field name cond (Metatype.count type ref defaultval)
      rest).Sized version r l offset (type.size :: sizes) := by
  have hlength : (type.encode
      (getClampedCount type (ref.size r name))).length = type.size :=
    IntType.encode_length _ _
  rw [← hlength]
  rw [← hlength] at h
  exact cons hactive rfl h

theorem dynarray {type member : IntType} (hactive : cond version r = true)
    (hcount : l.size name = (r.vector name).length)
    (h : rest.Sized version r l
      (offset + type.size * (r.vector name).length) sizes) :
    (Struct.field name cond (Metatype.dynarray type member) rest).Sized
      version r l offset (type.size * (r.vector name).length :: sizes) := by
  have hline : (Metatype.dynarray type member).layout name r l offset =
      some (l, (r.vector name).flatMap type.encode) := by
    rw [Metatype.layout, hcount, if_pos (Nat.le_refl _), List.take_length]
  have hlength := flatMap_encode_length type (r.vector name)
  rw [← hlength]
  rw [← hlength] at h
  exact cons hactive hline h

theorem string {n : Nat} {defaultval : Option CharString}
    (hactive : cond version r = true) (hpos : 0 < n)
    (h : rest.Sized version r l (offset + n) sizes) :
    (Struct.field name cond (Metatype.string n defaultval) rest).Sized
      version r l offset (n :: sizes) := by
  have hfits : ¬(n = 0 ∧ r.string name ≠ []) := by
    intro hboth
    exact Nat.ne_of_gt hpos hboth.left
  have hline : (Metatype.string n defaultval).layout name r l offset =
      some (l, (r.string name).take (n - 1) ++
        List.replicate (n - min (r.string name).length (n - 1)) 0) := by
    rw [Metatype.layout, if_neg hfits]
  have hlength := Metatype.string_layout_length hfits
  rw [← hlength] at h
  have hcons := cons hactive hline h
  rw [hlength] at hcons
  exact hcons

theorem mapM_layout {type : Struct} {items : List Record}
    {itemSizes : List (List Nat)}
    (h : List.Forall₂ (fun item sizes =>
      type.Sized version item Locals.initial 0 sizes) items itemSizes) :
    exists objects : List (List (List UInt8)),
      (items.mapM fun item => type.layout version item Locals.initial 0) =
        some objects ∧
      objects.flatten.map List.length = itemSizes.flatten := by
  induction h with
  | nil => exact ⟨[], rfl, rfl⟩
  | cons hfirst hrest ih =>
      rcases hfirst with ⟨chunks, hlayout, hsizes⟩
      rcases ih with ⟨objects, hobjects, hflat⟩
      refine ⟨chunks :: objects, ?_, ?_⟩
      · rw [List.mapM_cons, hlayout, hobjects]
        rfl
      · rw [List.flatten_cons, List.map_append, hsizes, hflat,
          List.flatten_cons]

theorem objects {type : Struct} {shape : Shape} {items : List Record}
    {itemSizes : List (List Nat)} (hactive : cond version r = true)
    (hitems : shape.elements name r l = some items)
    (h : List.Forall₂ (fun item sizes =>
      type.Sized version item Locals.initial 0 sizes) items itemSizes)
    (hrest : rest.Sized version r l (offset + itemSizes.flatten.sum) sizes) :
    (Struct.object name cond shape type rest).Sized version r l offset
      (itemSizes.flatten ++ sizes) := by
  rcases mapM_layout h with ⟨objects, hobjects, hflat⟩
  rcases hrest with ⟨chunks, hlayout, hsizes⟩
  have hlength : objects.flatten.flatten.length = itemSizes.flatten.sum := by
    rw [List.length_flatten, hflat]
  refine ⟨objects.flatten ++ chunks, ?_, ?_⟩
  · rw [layout, if_pos hactive, hitems, Option.bind_eq_bind,
      Option.bind_some, hobjects, Option.bind_eq_bind, Option.bind_some,
      hlength, hlayout]
    rfl
  · rw [List.map_append, hflat, hsizes]

theorem object {type : Struct} {defaultval : Option Record}
    {itemSizes : List Nat} (hactive : cond version r = true)
    (h : type.Sized version (r.object name) Locals.initial 0 itemSizes)
    (hrest : rest.Sized version r l (offset + itemSizes.sum) sizes) :
    (Struct.object name cond (Shape.simple defaultval) type rest).Sized
      version r l offset (itemSizes ++ sizes) := by
  have hflat : [itemSizes].flatten = itemSizes := List.flatten_singleton
  rw [← hflat]
  rw [← hflat] at hrest
  exact objects hactive rfl (List.Forall₂.cons h List.Forall₂.nil) hrest

theorem objectVector {type : Struct} {itemSizes : List (List Nat)}
    (hactive : cond version r = true)
    (hcount : l.size name = (r.objectVector name).length)
    (h : List.Forall₂ (fun item sizes =>
      type.Sized version item Locals.initial 0 sizes) (r.objectVector name)
        itemSizes)
    (hrest : rest.Sized version r l (offset + itemSizes.flatten.sum) sizes) :
    (Struct.object name cond Shape.dynarray type rest).Sized version r l
      offset (itemSizes.flatten ++ sizes) := by
  refine objects hactive ?_ h hrest
  rw [Shape.elements, hcount, if_pos (Nat.le_refl _), List.take_length]

end Sized

end Struct

end Packet
end Rzu
