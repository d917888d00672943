import Mathlib.Data.List.Forall2
import Rzu.Packet.Declaration

/-!
# Assignments of a deserialization

Every line of a declaration assigns a member: an active line what was read, an
inactive one its default.  Here are the assignments alone, without the bytes.
-/

namespace Rzu
namespace Packet

open Library

/-!
## Agreement on the active fields
-/

/-- Two structs agree on what a field covers. -/
def Metatype.Agrees (name : String) (r g : Record) : Metatype -> Prop
  | simple _ _ _ => r.integer name = g.integer name
  | array _ _ n _ => forall i, i < n -> r.array name i = g.array name i
  | dynarray _ _ => r.vector name = g.vector name
  | endarray _ _ => r.vector name = g.vector name
  | string _ _ => r.string name = g.string name
  | dynstring _ _ => r.string name = g.string name
  | endstring _ _ => r.string name = g.string name
  | count _ _ _ => True
  | padmarker => True
  | pad _ => True

def Shape.Agrees (agrees : Record -> Record -> Prop) (name : String)
    (r g : Record) : Shape -> Prop
  | simple _ => agrees (r.object name) (g.object name)
  | array n => forall i, i < n ->
      agrees (r.objectArray name i) (g.objectArray name i)
  | dynarray => List.Forall₂ agrees (r.objectVector name) (g.objectVector name)
  | endarray => List.Forall₂ agrees (r.objectVector name) (g.objectVector name)

namespace Struct

/-- Two structs agree on every field that is active in the version. -/
def Agrees (version : Version) : Struct -> Record -> Record -> Prop
  | nil, _, _ => True
  | field name cond metatype rest, r, g =>
      (cond version r = true -> metatype.Agrees name r g) ∧
        rest.Agrees version r g
  | object name cond shape type rest, r, g =>
      (cond version r = true ->
        shape.Agrees (fun r g => type.Agrees version r g) name r g) ∧
        rest.Agrees version r g

/-- Conditions look at the version only. -/
def VersionConditions : Struct -> Prop
  | nil => True
  | field _ cond _ rest =>
      (forall version r g, cond version r = cond version g) ∧
        rest.VersionConditions
  | object _ cond _ type rest =>
      (forall version r g, cond version r = cond version g) ∧
        type.VersionConditions ∧ rest.VersionConditions

end Struct

namespace Metatype

variable {metatype : Metatype} {name : String} {r g g' : Record}

theorem Agrees.refl (metatype : Metatype) (name : String) (r : Record) :
    metatype.Agrees name r r := by
  cases metatype with
  | array type member n defaultval =>
      intro i hi
      rfl
  | simple | dynarray | string | dynstring | endstring | endarray => rfl
  | count | padmarker | pad => trivial

theorem Agrees.trans (h : metatype.Agrees name r g)
    (h' : metatype.Agrees name g g') : metatype.Agrees name r g' := by
  cases metatype with
  | array type member n defaultval =>
      intro i hi
      exact (h i hi).trans (h' i hi)
  | simple | dynarray | string | dynstring | endstring | endarray =>
      exact Eq.trans h h'
  | count | padmarker | pad => trivial

end Metatype

namespace Shape

variable {agrees : Record -> Record -> Prop} {shape : Shape} {name : String}
variable {r g g' : Record}

theorem forall₂_trans
    (htrans : forall r g g', agrees r g -> agrees g g' -> agrees r g')
    {items items' items'' : List Record}
    (h : List.Forall₂ agrees items items')
    (h' : List.Forall₂ agrees items' items'') :
    List.Forall₂ agrees items items'' := by
  induction h generalizing items'' with
  | nil =>
      cases h'
      exact List.Forall₂.nil
  | cons hitem hitems ih =>
      cases h' with
      | cons hitem' hitems' =>
          exact List.Forall₂.cons (htrans _ _ _ hitem hitem') (ih hitems')

theorem Agrees.refl (hrefl : forall r, agrees r r) (shape : Shape)
    (name : String) (r : Record) : shape.Agrees agrees name r r := by
  cases shape with
  | simple defaultval => exact hrefl _
  | array n =>
      intro i hi
      exact hrefl _
  | dynarray => exact List.forall₂_same.mpr fun item _ => hrefl item
  | endarray => exact List.forall₂_same.mpr fun item _ => hrefl item

theorem Agrees.trans
    (htrans : forall r g g', agrees r g -> agrees g g' -> agrees r g')
    (h : shape.Agrees agrees name r g)
    (h' : shape.Agrees agrees name g g') :
    shape.Agrees agrees name r g' := by
  cases shape with
  | simple defaultval => exact htrans _ _ _ h h'
  | array n =>
      intro i hi
      exact htrans _ _ _ (h i hi) (h' i hi)
  | dynarray => exact forall₂_trans htrans h h'
  | endarray => exact forall₂_trans htrans h h'

end Shape

namespace Struct

variable {version : Version} {type : Struct}

theorem Agrees.refl (version : Version) (type : Struct) (r : Record) :
    type.Agrees version r r := by
  induction type generalizing r with
  | nil => trivial
  | field name cond metatype rest ih =>
      exact ⟨fun _ => Metatype.Agrees.refl metatype name r, ih r⟩
  | object name cond shape type rest ihtype ihrest =>
      exact ⟨fun _ => Shape.Agrees.refl ihtype shape name r, ihrest r⟩

theorem Agrees.trans (hversion : type.VersionConditions)
    {r g g' : Record} (h : type.Agrees version r g)
    (h' : type.Agrees version g g') : type.Agrees version r g' := by
  induction type generalizing r g g' with
  | nil => trivial
  | field name cond metatype rest ih =>
      refine ⟨?_, ih hversion.right h.right h'.right⟩
      intro hactive
      have hactive' := hactive
      rw [hversion.left version r g] at hactive'
      exact (h.left hactive).trans (h'.left hactive')
  | object name cond shape type rest ihtype ihrest =>
      refine ⟨?_, ihrest hversion.right.right h.right h'.right⟩
      intro hactive
      have hactive' := hactive
      rw [hversion.left version r g] at hactive'
      exact (h.left hactive).trans
        (fun _ _ _ hitem hitem' => ihtype hversion.right.left hitem hitem')
        (h'.left hactive')

end Struct

/-!
## The assignments
-/

/-- An active field is assigned the value that it had. -/
def Metatype.restore (name : String) (r g : Record) : Metatype -> Record
  | simple _ _ _ => g.setInteger name (r.integer name)
  | array _ _ n _ => g.setArray name fun i =>
      if i < n then r.array name i else g.array name i
  | dynarray _ _ => g.setVector name (r.vector name)
  | endarray _ _ => g.setVector name (r.vector name)
  | string _ _ => g.setString name (r.string name)
  | dynstring _ _ => g.setString name (r.string name)
  | endstring _ _ => g.setString name (r.string name)
  | count _ _ _ => g
  | padmarker => g
  | pad _ => g

/-- Objects are assigned one by one, into the ones that are there. -/
def overwriteEach (overwrite : Record -> Record -> Record) :
    List Record -> List Record -> List Record
  | item :: items, old :: olds =>
      overwrite item old :: overwriteEach overwrite items olds
  | _, _ => []

def Shape.restore (overwrite : Record -> Record -> Record) (name : String)
    (r g : Record) : Shape -> Record
  | simple _ => g.setObject name (overwrite (r.object name) (g.object name))
  | array n => g.setObjectArray name
      (overwriteEach overwrite ((List.range n).map (r.objectArray name))
        ((List.range n).map (g.objectArray name)))
  | dynarray => g.setObjectVector name
      (overwriteEach overwrite (r.objectVector name)
        (resize (r.objectVector name).length (g.objectVector name)))
  | endarray => g.setObjectVector name
      (g.objectVector name ++ overwriteEach overwrite (r.objectVector name)
        (List.replicate (r.objectVector name).length Record.zero))

/--
Overwrite a struct with the assignments of all lines in order: an active line
assigns what its field is in `r`, an inactive line its default.
-/
def Struct.overwrite (version : Version) :
    Struct -> Record -> Record -> Record
  | nil, _, g => g
  | field name cond metatype rest, r, g =>
      if cond version r then
        rest.overwrite version r (metatype.restore name r g)
      else rest.overwrite version r (metatype.copyDefaultValue name g)
  | object name cond shape type rest, r, g =>
      if cond version r then
        rest.overwrite version r
          (shape.restore (fun r g => type.overwrite version r g) name r g)
      else rest.overwrite version r (shape.copyDefaultValue name g)

theorem Record.object_setObject (r : Record) (name other : String)
    (val : Record) :
    (r.setObject name val).object other =
      if other = name then val else r.object other := by
  by_cases heq : other = name
  · subst heq
    simp [setObject, object]
  · simp [setObject, object, heq]

theorem Record.objectArray_setObjectArray (r : Record)
    (name other : String) (val : List Record) (i : Nat) :
    (r.setObjectArray name val).objectArray other i =
      if other = name then (val[i]?).getD (r.objectArray name i)
      else r.objectArray other i := by
  by_cases heq : other = name
  · subst heq
    by_cases hi : i < val.length
    · simp [setObjectArray, objectArray, hi]
    · simp [setObjectArray, objectArray, hi]
  · simp [setObjectArray, objectArray, heq]

theorem Record.objectVector_setObjectVector (r : Record)
    (name other : String) (val : List Record) :
    (r.setObjectVector name val).objectVector other =
      if other = name then val else r.objectVector other := by
  by_cases heq : other = name
  · subst heq
    simp [setObjectVector]
  · simp [setObjectVector, heq]

/-- Whatever two structs agree on, two others agree on as well. -/
structure Preserves (version : Version) (a b a' b' : Record) : Prop where
  integer : forall name, a.integer name = b.integer name ->
    a'.integer name = b'.integer name
  array : forall name i, a.array name i = b.array name i ->
    a'.array name i = b'.array name i
  vector : forall name, a.vector name = b.vector name ->
    a'.vector name = b'.vector name
  string : forall name, a.string name = b.string name ->
    a'.string name = b'.string name
  object : forall name (type : Struct), type.VersionConditions ->
    type.Agrees version (a.object name) (b.object name) ->
      type.Agrees version (a'.object name) (b'.object name)
  objectArray : forall name i (type : Struct), type.VersionConditions ->
    type.Agrees version (a.objectArray name i) (b.objectArray name i) ->
      type.Agrees version (a'.objectArray name i) (b'.objectArray name i)
  objectVector : forall name (type : Struct), type.VersionConditions ->
    List.Forall₂ (fun r g => type.Agrees version r g)
      (a.objectVector name) (b.objectVector name) ->
      List.Forall₂ (fun r g => type.Agrees version r g)
        (a'.objectVector name) (b'.objectVector name)

namespace Preserves

variable {version : Version} {a b a' b' a'' b'' : Record}

theorem refl (version : Version) (a b : Record) :
    Preserves version a b a b :=
  ⟨fun _ h => h, fun _ _ h => h, fun _ h => h, fun _ h => h,
    fun _ _ _ h => h, fun _ _ _ _ h => h, fun _ _ _ h => h⟩

theorem trans (h : Preserves version a b a' b')
    (h' : Preserves version a' b' a'' b'') :
    Preserves version a b a'' b'' where
  integer name hold := h'.integer name (h.integer name hold)
  array name i hold := h'.array name i (h.array name i hold)
  vector name hold := h'.vector name (h.vector name hold)
  string name hold := h'.string name (h.string name hold)
  object name type hversion hold :=
    h'.object name type hversion (h.object name type hversion hold)
  objectArray name i type hversion hold :=
    h'.objectArray name i type hversion
      (h.objectArray name i type hversion hold)
  objectVector name type hversion hold :=
    h'.objectVector name type hversion
      (h.objectVector name type hversion hold)

theorem metatype (h : Preserves version a b a' b') {metatype : Metatype}
    {name : String} (hagrees : metatype.Agrees name a b) :
    metatype.Agrees name a' b' := by
  cases metatype with
  | simple type member defaultval => exact h.integer name hagrees
  | array type member n defaultval =>
      intro i hi
      exact h.array name i (hagrees i hi)
  | dynarray type member => exact h.vector name hagrees
  | endarray type member => exact h.vector name hagrees
  | string n defaultval => exact h.string name hagrees
  | dynstring hasNullTerminator defaultval => exact h.string name hagrees
  | endstring hasNullTerminator defaultval => exact h.string name hagrees
  | count | padmarker | pad => trivial

theorem shape (h : Preserves version a b a' b') {shape : Shape}
    {name : String} {type : Struct} (hversion : type.VersionConditions)
    (hagrees : shape.Agrees (fun r g => type.Agrees version r g) name a b) :
    shape.Agrees (fun r g => type.Agrees version r g) name a' b' := by
  cases shape with
  | simple defaultval => exact h.object name type hversion hagrees
  | array n =>
      intro i hi
      exact h.objectArray name i type hversion (hagrees i hi)
  | dynarray => exact h.objectVector name type hversion hagrees
  | endarray => exact h.objectVector name type hversion hagrees

theorem agrees (h : Preserves version a b a' b') {type : Struct}
    (hversion : type.VersionConditions) (hagrees : type.Agrees version a b) :
    type.Agrees version a' b' := by
  induction type with
  | nil => trivial
  | field name cond metatype rest ih =>
      refine ⟨?_, ih hversion.right hagrees.right⟩
      intro hactive
      rw [hversion.left version a' a] at hactive
      exact h.metatype (hagrees.left hactive)
  | object name cond shape type rest ihtype ihrest =>
      refine ⟨?_, ihrest hversion.right.right hagrees.right⟩
      intro hactive
      rw [hversion.left version a' a] at hactive
      exact h.shape hversion.right.left (hagrees.left hactive)

theorem setInteger (version : Version) (a b : Record) (name : String)
    (val : Int) :
    Preserves version a b (a.setInteger name val) (b.setInteger name val) :=
  { refl version a b with
    integer := by
      intro other hold
      by_cases heq : other = name
      · subst heq
        simp [Record.setInteger]
      · simpa [Record.setInteger, Function.update_of_ne heq] using hold }

theorem setArray (version : Version) (a b : Record) (name : String)
    {val val' : Nat -> Int}
    (hval : forall i, a.array name i = b.array name i -> val i = val' i) :
    Preserves version a b (a.setArray name val) (b.setArray name val') :=
  { refl version a b with
    array := by
      intro other i hold
      by_cases heq : other = name
      · subst heq
        simpa [Record.setArray] using hval i hold
      · simpa [Record.setArray, Function.update_of_ne heq] using hold }

theorem setVector (version : Version) (a b : Record) (name : String)
    (val : List Int) :
    Preserves version a b (a.setVector name val) (b.setVector name val) :=
  { refl version a b with
    vector := by
      intro other hold
      by_cases heq : other = name
      · subst heq
        simp [Record.setVector]
      · simpa [Record.setVector, Function.update_of_ne heq] using hold }

theorem setString (version : Version) (a b : Record) (name : String)
    (val : CharString) :
    Preserves version a b (a.setString name val) (b.setString name val) :=
  { refl version a b with
    string := by
      intro other hold
      by_cases heq : other = name
      · subst heq
        simp [Record.setString]
      · simpa [Record.setString, Function.update_of_ne heq] using hold }

theorem setObject {name : String} {val val' : Record}
    (hval : forall type : Struct, type.VersionConditions ->
      type.Agrees version (a.object name) (b.object name) ->
        type.Agrees version val val') :
    Preserves version a b (a.setObject name val) (b.setObject name val') :=
  { refl version a b with
    object := by
      intro other type hversion hold
      rw [Record.object_setObject, Record.object_setObject]
      split
      · rename_i heq
        subst heq
        exact hval type hversion hold
      · exact hold }

theorem setObjectArray {name : String} {val val' : List Record}
    (hlength : val.length = val'.length)
    (hval : forall (i : Nat) (hi : i < val.length) (hi' : i < val'.length)
      (type : Struct), type.VersionConditions ->
        type.Agrees version (a.objectArray name i) (b.objectArray name i) ->
          type.Agrees version val[i] val'[i]) :
    Preserves version a b (a.setObjectArray name val)
      (b.setObjectArray name val') :=
  { refl version a b with
    objectArray := by
      intro other i type hversion hold
      rw [Record.objectArray_setObjectArray,
        Record.objectArray_setObjectArray]
      split
      · rename_i heq
        subst heq
        by_cases hi : i < val.length
        · have hi' : i < val'.length := hlength ▸ hi
          rw [List.getElem?_eq_getElem hi, List.getElem?_eq_getElem hi']
          exact hval i hi hi' type hversion hold
        · have hi' : ¬i < val'.length := hlength ▸ hi
          rw [List.getElem?_eq_none (Nat.le_of_not_lt hi),
            List.getElem?_eq_none (Nat.le_of_not_lt hi')]
          exact hold
      · exact hold }

theorem setObjectVector {name : String} {val val' : List Record}
    (hval : forall type : Struct, type.VersionConditions ->
      List.Forall₂ (fun r g => type.Agrees version r g)
        (a.objectVector name) (b.objectVector name) ->
        List.Forall₂ (fun r g => type.Agrees version r g) val val') :
    Preserves version a b (a.setObjectVector name val)
      (b.setObjectVector name val') :=
  { refl version a b with
    objectVector := by
      intro other type hversion hold
      rw [Record.objectVector_setObjectVector,
        Record.objectVector_setObjectVector]
      split
      · rename_i heq
        subst heq
        exact hval type hversion hold
      · exact hold }

end Preserves

/-!
## What the assignments leave
-/

theorem overwriteEach_length (overwrite : Record -> Record -> Record)
    {items olds : List Record} (h : items.length = olds.length) :
    (overwriteEach overwrite items olds).length = items.length := by
  induction items generalizing olds with
  | nil => rfl
  | cons item items ih =>
      cases olds with
      | nil => cases h
      | cons old olds =>
          rw [overwriteEach, List.length_cons, List.length_cons,
            ih (Nat.succ.inj h)]

theorem overwriteEach_getElem (overwrite : Record -> Record -> Record)
    {items olds : List Record} {i : Nat}
    (hi : i < (overwriteEach overwrite items olds).length)
    (hitem : i < items.length) (hold : i < olds.length) :
    (overwriteEach overwrite items olds)[i] =
      overwrite items[i] olds[i] := by
  induction items generalizing olds i with
  | nil => cases hitem
  | cons item items ih =>
      cases olds with
      | nil => cases hold
      | cons old olds =>
          cases i with
          | zero => rfl
          | succ i =>
              exact ih (Nat.lt_of_succ_lt_succ hi)
                (Nat.lt_of_succ_lt_succ hitem) (Nat.lt_of_succ_lt_succ hold)

theorem overwriteEach_forall₂ {overwrite : Record -> Record -> Record}
    {agrees : Record -> Record -> Prop} (items : List Record)
    {olds olds' : List Record}
    (h : forall item old old', agrees old old' ->
      agrees (overwrite item old) (overwrite item old'))
    (hold : List.Forall₂ agrees olds olds') :
    List.Forall₂ agrees (overwriteEach overwrite items olds)
      (overwriteEach overwrite items olds') := by
  induction hold generalizing items with
  | nil =>
      cases items with
      | nil => exact List.Forall₂.nil
      | cons item items => exact List.Forall₂.nil
  | cons hitem hitems ih =>
      cases items with
      | nil => exact List.Forall₂.nil
      | cons item items =>
          exact List.Forall₂.cons (h item _ _ hitem) (ih items)

theorem resize_length (count : Nat) (val : List Record) :
    (resize count val).length = count := by
  rw [resize, List.length_append, List.length_take, List.length_replicate]
  lia

theorem resize_forall₂ {agrees : Record -> Record -> Prop}
    (hrefl : forall r, agrees r r) (count : Nat) {val val' : List Record}
    (h : List.Forall₂ agrees val val') :
    List.Forall₂ agrees (resize count val) (resize count val') := by
  have hlength := h.length_eq
  rw [resize, resize, hlength]
  exact List.rel_append (List.forall₂_take count h)
    (List.forall₂_same.mpr fun item _ => hrefl item)

namespace Preserves

variable {version : Version} {a b : Record}

theorem restore (version : Version) (metatype : Metatype) (name : String)
    (r a b : Record) :
    Preserves version a b (metatype.restore name r a)
      (metatype.restore name r b) := by
  cases metatype with
  | simple type member defaultval => exact setInteger version a b name _
  | array type member n defaultval =>
      apply setArray
      intro i hold
      split
      · rfl
      · exact hold
  | dynarray type member => exact setVector version a b name _
  | endarray type member => exact setVector version a b name _
  | string n defaultval => exact setString version a b name _
  | dynstring hasNullTerminator defaultval =>
      exact setString version a b name _
  | endstring hasNullTerminator defaultval =>
      exact setString version a b name _
  | count | padmarker | pad => exact refl version a b

theorem copyDefaultValue (version : Version) (metatype : Metatype)
    (name : String) (a b : Record) :
    Preserves version a b (metatype.copyDefaultValue name a)
      (metatype.copyDefaultValue name b) := by
  unfold Metatype.copyDefaultValue
  split
  · exact setInteger version a b name _
  · apply setArray
    intro i hold
    rw [Metatype.copyDefaultArray, Metatype.copyDefaultArray, hold]
  · exact setString version a b name _
  · exact setString version a b name _
  · exact setString version a b name _
  · exact refl version a b

theorem copyDefaultObject (version : Version) (shape : Shape)
    (name : String) (a b : Record) :
    Preserves version a b (shape.copyDefaultValue name a)
      (shape.copyDefaultValue name b) := by
  unfold Shape.copyDefaultValue
  split
  · exact setObject fun type hversion hold => Struct.Agrees.refl version _ _
  · exact refl version a b

theorem restoreObjects {overwrite : Record -> Record -> Record}
    (hoverwrite : forall item old old' (type : Struct),
      type.VersionConditions -> type.Agrees version old old' ->
        type.Agrees version (overwrite item old) (overwrite item old'))
    (shape : Shape) (name : String) (r a b : Record) :
    Preserves version a b (shape.restore overwrite name r a)
      (shape.restore overwrite name r b) := by
  cases shape with
  | simple defaultval =>
      exact setObject fun type hversion hold =>
        hoverwrite _ _ _ type hversion hold
  | array n =>
      have hlength (g : Record) : (overwriteEach overwrite
          ((List.range n).map (r.objectArray name))
          ((List.range n).map (g.objectArray name))).length = n := by
        rw [overwriteEach_length overwrite (by
          rw [List.length_map, List.length_map]),
          List.length_map, List.length_range]
      apply setObjectArray
      · rw [hlength, hlength]
      · intro i hi hi' type hversion hold
        rw [overwriteEach_getElem overwrite hi
            (by simpa [hlength] using hi) (by simpa [hlength] using hi),
          overwriteEach_getElem overwrite hi'
            (by simpa [hlength] using hi) (by simpa [hlength] using hi)]
        simpa using hoverwrite _ _ _ type hversion hold
  | dynarray =>
      exact setObjectVector fun type hversion hold =>
        overwriteEach_forall₂ _
          (fun item old old' hitem =>
            hoverwrite item old old' type hversion hitem)
          (resize_forall₂ (Struct.Agrees.refl version type) _ hold)
  | endarray =>
      exact setObjectVector fun type hversion hold =>
        List.rel_append hold
          (List.forall₂_same.mpr fun item _ =>
            Struct.Agrees.refl version type item)

theorem overwrite (version : Version) (type : Struct) (r a b : Record) :
    Preserves version a b (type.overwrite version r a)
      (type.overwrite version r b) := by
  induction type generalizing r a b with
  | nil => exact refl version a b
  | field name cond metatype rest ih =>
      rw [Struct.overwrite, Struct.overwrite]
      split
      · exact (restore version metatype name r a b).trans (ih r _ _)
      · exact (copyDefaultValue version metatype name a b).trans (ih r _ _)
  | object name cond shape type rest ihtype ihrest =>
      rw [Struct.overwrite, Struct.overwrite]
      split
      · apply trans _ (ihrest r _ _)
        apply restoreObjects
        intro item old old' type' hversion hold
        exact (ihtype item old old').agrees hversion hold
      · exact (copyDefaultObject version shape name a b).trans (ihrest r _ _)

end Preserves

/-- A field that does not extend to the end of the packet. -/
def Metatype.isBounded : Metatype -> Bool
  | endstring _ _ => false
  | endarray _ _ => false
  | _ => true

def Shape.isBounded : Shape -> Bool
  | endarray => false
  | _ => true

/-- No field extends to the end of the packet. -/
def Struct.Bounded : Struct -> Prop
  | nil => True
  | field _ _ metatype rest => metatype.isBounded = true ∧ rest.Bounded
  | object _ _ shape type rest =>
      shape.isBounded = true ∧ type.Bounded ∧ rest.Bounded

theorem Metatype.restore_agrees (metatype : Metatype) (name : String)
    (r g g' : Record) :
    metatype.Agrees name (metatype.restore name r g)
      (metatype.restore name r g') := by
  cases metatype with
  | array type member n defaultval =>
      intro i hi
      simp [restore, Record.setArray, hi]
  | simple => simp [Agrees, restore, Record.setInteger]
  | dynarray => simp [Agrees, restore, Record.setVector]
  | endarray => simp [Agrees, restore, Record.setVector]
  | string => simp [Agrees, restore, Record.setString]
  | dynstring => simp [Agrees, restore, Record.setString]
  | endstring => simp [Agrees, restore, Record.setString]
  | count | padmarker | pad => trivial

theorem overwriteEach_agrees {overwrite : Record -> Record -> Record}
    {agrees : Record -> Record -> Prop} {items olds olds' : List Record}
    (h : forall item old old', agrees (overwrite item old)
      (overwrite item old'))
    (hlength : olds.length = olds'.length) :
    List.Forall₂ agrees (overwriteEach overwrite items olds)
      (overwriteEach overwrite items olds') := by
  induction items generalizing olds olds' with
  | nil => exact List.Forall₂.nil
  | cons item items ih =>
      cases olds with
      | nil =>
          cases olds' with
          | nil => exact List.Forall₂.nil
          | cons old' olds' => cases hlength
      | cons old olds =>
          cases olds' with
          | nil => cases hlength
          | cons old' olds' =>
              exact List.Forall₂.cons (h item old old')
                (ih (Nat.succ.inj hlength))

theorem Shape.restore_agrees {overwrite : Record -> Record -> Record}
    {agrees : Record -> Record -> Prop}
    (h : forall item old old', agrees (overwrite item old)
      (overwrite item old'))
    {shape : Shape} (hbounded : shape.isBounded = true) (name : String)
    (r g g' : Record) :
    shape.Agrees agrees name (shape.restore overwrite name r g)
      (shape.restore overwrite name r g') := by
  cases shape with
  | simple defaultval =>
      rw [Agrees, restore, restore, Record.object_setObject,
        Record.object_setObject, if_pos rfl, if_pos rfl]
      exact h _ _ _
  | array n =>
      have hlength (g : Record) : (overwriteEach overwrite
          ((List.range n).map (r.objectArray name))
          ((List.range n).map (g.objectArray name))).length = n := by
        rw [overwriteEach_length overwrite (by
          rw [List.length_map, List.length_map]),
          List.length_map, List.length_range]
      intro i hi
      have hi₁ := hi
      have hi₂ := hi
      rw [← hlength g] at hi₁
      rw [← hlength g'] at hi₂
      rw [restore, restore, Record.objectArray_setObjectArray,
        Record.objectArray_setObjectArray, if_pos rfl, if_pos rfl,
        List.getElem?_eq_getElem hi₁, List.getElem?_eq_getElem hi₂,
        Option.getD_some, Option.getD_some,
        overwriteEach_getElem overwrite hi₁ (by simpa using hi)
          (by simpa using hi),
        overwriteEach_getElem overwrite hi₂ (by simpa using hi)
          (by simpa using hi)]
      simp only [List.getElem_map]
      exact h _ _ _
  | dynarray =>
      rw [Agrees, restore, restore, Record.objectVector_setObjectVector,
        Record.objectVector_setObjectVector, if_pos rfl, if_pos rfl]
      apply overwriteEach_agrees h
      rw [resize_length, resize_length]
  | endarray => cases hbounded

/-- What is overwritten does not matter for the active fields. -/
theorem Struct.overwrite_agrees (version : Version) {type : Struct}
    (hbounded : type.Bounded) (hversion : type.VersionConditions)
    (r g g' : Record) :
    type.Agrees version (type.overwrite version r g)
      (type.overwrite version r g') := by
  induction type generalizing r g g' with
  | nil => trivial
  | field name cond metatype rest ih =>
      rw [Struct.overwrite, Struct.overwrite]
      split
      · refine ⟨?_, ih hbounded.right hversion.right r _ _⟩
        intro hactive
        exact (Preserves.overwrite version rest r _ _).metatype
          (metatype.restore_agrees name r g g')
      · rename_i hinactive
        refine ⟨?_, ih hbounded.right hversion.right r _ _⟩
        intro hactive
        rw [hversion.left version _ r] at hactive
        exact absurd hactive hinactive
  | object name cond shape type rest ihtype ihrest =>
      rw [Struct.overwrite, Struct.overwrite]
      split
      · refine ⟨?_, ihrest hbounded.right.right hversion.right.right r _ _⟩
        intro hactive
        apply (Preserves.overwrite version rest r _ _).shape
          hversion.right.left
        exact Shape.restore_agrees
          (fun item old old' => ihtype hbounded.right.left
            hversion.right.left item old old')
          hbounded.left name r g g'
      · rename_i hinactive
        refine ⟨?_, ihrest hbounded.right.right hversion.right.right r _ _⟩
        intro hactive
        rw [hversion.left version _ r] at hactive
        exact absurd hactive hinactive

/--
The active fields keep their values through the assignments of all lines: no
default of an inactive line spoils a field that is active.
-/
def Struct.Unspoilt (version : Version) (type : Struct) (r : Record) : Prop :=
  type.Agrees version r (type.overwrite version r r)

theorem Struct.agrees_overwrite_iff {version : Version} {type : Struct}
    (hbounded : type.Bounded) (hversion : type.VersionConditions)
    (r g : Record) :
    type.Agrees version r (type.overwrite version r g) ↔
      type.Unspoilt version r := by
  constructor
  · intro hagrees
    exact hagrees.trans hversion
      (overwrite_agrees version hbounded hversion r g r)
  · intro hunspoilt
    exact hunspoilt.trans hversion
      (overwrite_agrees version hbounded hversion r r g)

end Packet
end Rzu
