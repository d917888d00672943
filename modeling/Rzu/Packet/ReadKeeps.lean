import Rzu.Packet.Hostile

/-!
# What reading keeps

A property of a struct that every field keeps holds of what is read.
-/

namespace Rzu
namespace Packet

open Library

theorem terminated_takeWhile (bytes : List UInt8) :
    0 ∉ bytes.takeWhile (· ≠ 0) := by
  intro hzero
  have hall := List.all_eq_true.mp (List.all_takeWhile (l := bytes)) 0 hzero
  simp at hall

namespace Metatype

variable {name : String} {l l' : Locals} {b b' : MessageBuffer}
variable {r r' : Record}

theorem read_simple {type member : IntType} {defaultval : Option Int}
    (h : (simple type member defaultval).read name l b r =
      some (l', b', r')) : exists val, r' = r.setInteger name val := by
  rcases Option.map_eq_some_iff.mp h with ⟨result, -, hpair⟩
  cases hpair
  exact ⟨_, rfl⟩

theorem read_dynarray {type member : IntType}
    (h : (dynarray type member).read name l b r = some (l', b', r')) :
    exists val, r' = r.setVector name val := by
  rcases Option.map_eq_some_iff.mp h with ⟨result, -, hpair⟩
  cases hpair
  exact ⟨_, rfl⟩

theorem read_count {type : IntType} {ref : Container}
    {defaultval : Option Nat}
    (h : (count type ref defaultval).read name l b r = some (l', b', r')) :
    r' = r := by
  rcases Option.map_eq_some_iff.mp h with ⟨result, -, hpair⟩
  cases hpair
  rfl

theorem read_string {n : Nat} {defaultval : Option CharString}
    (h : (string n defaultval).read name l b r = some (l', b', r')) :
    exists val, r' = r.setString name val ∧
      (val = r.string name ∨ (val.length ≤ n - 1 ∧ 0 ∉ val)) := by
  rcases Option.map_eq_some_iff.mp h with ⟨⟨after, val⟩, hread, hpair⟩
  cases hpair
  refine ⟨val, rfl, ?_⟩
  rw [MessageBuffer.readString] at hread
  split at hread
  · rcases Option.bind_eq_some_iff.mp hread with ⟨bytes, hbytes, hpair⟩
    cases hpair
    rw [MessageBuffer.load] at hbytes
    split at hbytes
    · cases hbytes
      refine Or.inr ⟨?_, ?_⟩
      · exact Nat.le_trans (List.takeWhile_prefix _).length_le
          (List.length_take_le _ _)
      · exact terminated_takeWhile _
    · cases hbytes
  · cases hread
    exact Or.inl rfl

end Metatype

namespace Struct

variable {version : Version} {l : Locals} {b b' : MessageBuffer}
variable {r r' : Record} {keeps : Record -> Prop}

/-- Each field keeps a property, be it read or given its default. -/
def FieldsKeep (keeps : Record -> Prop) : Struct -> Prop
  | nil => True
  | field name _ metatype rest =>
      (forall l b r l' b' r', metatype.read name l b r = some (l', b', r') ->
        keeps r -> keeps r') ∧
      (forall r, keeps r -> keeps (metatype.copyDefaultValue name r)) ∧
      rest.FieldsKeep keeps
  | object name _ shape type rest =>
      (forall version l b r b' r',
        shape.read (fun b item => type.read version Locals.initial b item)
          name l b r = some (b', r') -> keeps r -> keeps r') ∧
      (forall r, keeps r -> keeps (shape.copyDefaultValue name r)) ∧
      rest.FieldsKeep keeps

theorem read_keeps {type : Struct} (hfields : type.FieldsKeep keeps)
    (h : type.read version l b r = some (b', r')) (hr : keeps r) :
    keeps r' := by
  induction type generalizing l b r with
  | nil =>
      cases h
      exact hr
  | field name cond metatype rest ih =>
      rcases hfields with ⟨hread, hdefault, hrest⟩
      rw [read] at h
      split at h
      · rcases Option.bind_eq_some_iff.mp h with
          ⟨⟨l1, b1, r1⟩, hfirst, hlater⟩
        exact ih hrest hlater (hread _ _ _ _ _ _ hfirst hr)
      · exact ih hrest h (hdefault r hr)
  | object name cond shape type rest ihtype ihrest =>
      rcases hfields with ⟨hread, hdefault, hrest⟩
      rw [read] at h
      split at h
      · rcases Option.bind_eq_some_iff.mp h with ⟨⟨b1, r1⟩, hfirst, hlater⟩
        exact ihrest hrest hlater (hread _ _ _ _ _ _ hfirst hr)
      · exact ihrest hrest h (hdefault r hr)

theorem read_ends {name : String} {cond : Condition} {metatype : Metatype}
    {rest : Struct}
    (hrest : forall l b r b' r', rest.read version l b r = some (b', r') ->
      keeps r')
    (l : Locals) (b : MessageBuffer) (r : Record) (b' : MessageBuffer)
    (r' : Record)
    (h : (field name cond metatype rest).read version l b r =
      some (b', r')) : keeps r' := by
  rw [read] at h
  split at h
  · rcases Option.bind_eq_some_iff.mp h with ⟨⟨l1, b1, r1⟩, -, hlater⟩
    exact hrest _ _ _ _ _ hlater
  · exact hrest _ _ _ _ _ h

theorem readEach_keeps
    {readItem : MessageBuffer -> Record -> Option (MessageBuffer × Record)}
    (hitem : forall b item b' item', readItem b item = some (b', item') ->
      keeps item -> keeps item')
    {items items' : List Record}
    (h : readEach readItem items b = some (b', items'))
    (hitems : forall item, item ∈ items -> keeps item) :
    forall item, item ∈ items' -> keeps item := by
  induction items generalizing b items' with
  | nil =>
      cases h
      exact hitems
  | cons first rest ih =>
      rcases Option.bind_eq_some_iff.mp h with ⟨⟨b1, first'⟩, hfirst, h⟩
      rcases Option.bind_eq_some_iff.mp h with ⟨⟨b2, rest'⟩, hrest, hpair⟩
      cases hpair
      intro item hmem
      rcases List.mem_cons.mp hmem with heq | hlater
      · rw [heq]
        exact hitem _ _ _ _ hfirst (hitems first List.mem_cons_self)
      · exact ih hrest
          (fun item hold => hitems item (List.mem_cons_of_mem _ hold))
          item hlater

theorem readObjects_keeps {name : String}
    {readItem : MessageBuffer -> Record -> Option (MessageBuffer × Record)}
    (hitem : forall b item b' item', readItem b item = some (b', item') ->
      keeps item -> keeps item') (hzero : keeps Record.zero)
    (h : Shape.dynarray.read readItem name l b r = some (b', r'))
    (hr : forall item, item ∈ r.objectVector name -> keeps item) :
    forall item, item ∈ r'.objectVector name -> keeps item := by
  rw [Shape.read] at h
  split at h
  · rcases Option.map_eq_some_iff.mp h with ⟨result, hread, hpair⟩
    cases hpair
    have hold : forall item,
        item ∈ resize (l.size name) (r.objectVector name) -> keeps item := by
      intro item hmem
      rcases List.mem_append.mp hmem with hmem | hmem
      · exact hr item (List.mem_of_mem_take hmem)
      · rw [(List.mem_replicate.mp hmem).right]
        exact hzero
    intro item hmem
    have hset : (r.setObjectVector name result.2).objectVector name =
        result.2 := Function.update_self _ _ _
    rw [hset] at hmem
    exact readEach_keeps hitem hread hold item hmem
  · cases h
    exact hr

end Struct

end Packet
end Rzu
