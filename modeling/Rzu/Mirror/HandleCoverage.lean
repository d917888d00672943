import Mathlib.Data.List.Forall2
import Rzu.Mirror.PacketHandleConverter

/-!
# Handles that are not converted

Which handles of a packet its conversion reaches, and what else it changes.
-/

namespace Rzu
namespace Mirror

open Library
open Packet

/-!
## Every handle of a packet
-/

def replaceKind (f : Handle -> Handle) (kind : Kind) (val : Int) : Int :=
  if kind = Kind.handle then f val else val

/-- A field in which every handle is replaced, and nothing else. -/
def FieldReplaced (f : Handle -> Handle) (name : String) (kind : Kind)
    (r r' : Record) : Metatype -> Prop
  | .simple _ _ _ => r'.integer name = replaceKind f kind (r.integer name)
  | .array _ _ size _ =>
      forall i, i < size ->
        r'.array name i = replaceKind f kind (r.array name i)
  | .dynarray _ _ => r'.vector name = (r.vector name).map (replaceKind f kind)
  | .endarray _ _ => r'.vector name = (r.vector name).map (replaceKind f kind)
  | .string _ _ => r'.string name = r.string name
  | .dynstring _ _ => r'.string name = r.string name
  | .endstring _ _ => r'.string name = r.string name
  | .count _ _ _ => True
  | .padmarker => True
  | .pad _ => True

def namesInForce (version : Version) : Description -> Record -> List String
  | .nil, _ => []
  | .field name cond _ _ rest, r =>
      (if cond version r then [name] else []) ++ namesInForce version rest r
  | .object name cond _ _ rest, r =>
      (if cond version r then [name] else []) ++ namesInForce version rest r

/-- What is under other names is the same. -/
def Untouched (version : Version) (type : Description) (r r' : Record) :
    Prop :=
  forall name, name ∉ namesInForce version type r -> r.SameAt name r'

def FieldsReplaced (f : Handle -> Handle) (version : Version) :
    Description -> Record -> Record -> Prop
  | .nil, _, _ => True
  | .field name cond metatype kind rest, r, r' =>
      (cond version r = true -> FieldReplaced f name kind r r' metatype) ∧
        FieldsReplaced f version rest r r'
  | .object name cond shape type rest, r, r' =>
      (cond version r = true ->
        List.Forall₂ (fun item item' =>
          FieldsReplaced f version type item item' ∧
            Untouched version type item item')
          (shape.items name r) (shape.items name r')) ∧
        FieldsReplaced f version rest r r'

/-- Every handle anywhere in a packet is replaced, and nothing else. -/
structure HandlesReplaced (f : Handle -> Handle) (version : Version)
    (type : Description) (r r' : Record) : Prop where
  fields : FieldsReplaced f version type r r'
  others : Untouched version type r r'

/-!
## Handles out of reach
-/

def FieldKeeps (f : Handle -> Handle) (name : String) (kind : Kind)
    (r : Record) : Metatype -> Prop
  | .simple _ _ _ => kind = Kind.handle -> f (r.integer name) = r.integer name
  | .array _ _ size _ =>
      kind = Kind.handle ->
        forall i, i < size -> f (r.array name i) = r.array name i
  | .dynarray _ _ =>
      kind = Kind.handle -> forall val, val ∈ r.vector name -> f val = val
  | .endarray _ _ =>
      kind = Kind.handle -> forall val, val ∈ r.vector name -> f val = val
  | _ => True

def isSimple : Metatype -> Bool
  | .simple _ _ _ => true
  | _ => false

/--
No array, vector or object in force has a handle that would have to be
replaced.
-/
def NoneInside (f : Handle -> Handle) (version : Version) :
    Description -> Record -> Prop
  | .nil, _ => True
  | .field name cond metatype kind rest, r =>
      (cond version r = true -> isSimple metatype = false ->
        FieldKeeps f name kind r metatype) ∧
        NoneInside f version rest r
  | .object name cond shape type rest, r =>
      (cond version r = true -> forall item, item ∈ shape.items name r ->
        type.Every version (fun name metatype kind item =>
          FieldKeeps f name kind item metatype) item) ∧
        NoneInside f version rest r

/-- Fields out of force have their defaults already, if there are some. -/
def DefaultsKept (version : Version) : Description -> Record -> Prop
  | .nil, _ => True
  | .field name cond metatype _ rest, r =>
      (cond version r = false ->
        r.SameAt name (metatype.copyDefaultValue name r)) ∧
        DefaultsKept version rest r
  | .object name cond shape _ rest, r =>
      (cond version r = false ->
        r.SameAt name (shape.copyDefaultValue name r)) ∧
        DefaultsKept version rest r

section Replaced

variable {f : Handle -> Handle} {version : Version} {name : String}
  {kind : Kind} {r r' r'' : Record} {metatype : Metatype}
  {type : Description}

theorem map_eq_self_iff {vals : List Int} :
    vals = vals.map (replaceKind f kind) ↔
      (kind = Kind.handle -> forall val, val ∈ vals -> f val = val) := by
  have hid : vals = vals.map (replaceKind f kind) ↔
      vals.map (replaceKind f kind) = vals.map id := by
    rw [List.map_id, eq_comm]
  rw [hid, List.map_inj_left]
  by_cases hkind : kind = Kind.handle
  · simp [replaceKind, hkind]
  · simp [replaceKind, hkind]

theorem fieldReplaced_self_iff :
    FieldReplaced f name kind r r metatype ↔
      FieldKeeps f name kind r metatype := by
  cases metatype with
  | simple type member defaultval =>
      by_cases hkind : kind = Kind.handle
      · simp [FieldReplaced, FieldKeeps, replaceKind, hkind, eq_comm]
      · simp [FieldReplaced, FieldKeeps, replaceKind, hkind]
  | array type member size defaultval =>
      by_cases hkind : kind = Kind.handle
      · simp [FieldReplaced, FieldKeeps, replaceKind, hkind, eq_comm]
      · simp [FieldReplaced, FieldKeeps, replaceKind, hkind]
  | dynarray type member => exact map_eq_self_iff
  | endarray type member => exact map_eq_self_iff
  | _ => simp [FieldReplaced, FieldKeeps]

theorem fieldReplaced_congr (h : r'.SameAt name r'') :
    FieldReplaced f name kind r r' metatype ↔
      FieldReplaced f name kind r r'' metatype := by
  cases metatype with
  | simple type member defaultval => simp [FieldReplaced, h.integer]
  | array type member size defaultval => simp [FieldReplaced, h.array]
  | dynarray type member => simp [FieldReplaced, h.vector]
  | endarray type member => simp [FieldReplaced, h.vector]
  | string size defaultval => simp [FieldReplaced, h.string]
  | dynstring hasNullTerminator defaultval => simp [FieldReplaced, h.string]
  | endstring hasNullTerminator defaultval => simp [FieldReplaced, h.string]
  | _ => simp [FieldReplaced]

theorem untouched_refl : Untouched version type r r :=
  fun name _ => Record.SameAt.refl name r

theorem fieldsReplaced_self_iff :
    FieldsReplaced f version type r r ↔
      type.Every version (fun name metatype kind r =>
        FieldKeeps f name kind r metatype) r := by
  induction type generalizing r with
  | nil => exact Iff.rfl
  | field name cond metatype kind rest ih =>
      exact and_congr (imp_congr Iff.rfl fieldReplaced_self_iff) ih
  | object name cond shape type rest ihType ih =>
      refine and_congr (imp_congr Iff.rfl ?_) ih
      rw [List.forall₂_same]
      refine forall₂_congr fun item _ => ?_
      exact (and_iff_left untouched_refl).trans ihType

theorem items_congr {shape : Shape} (h : r.SameAt name r') :
    shape.items name r' = shape.items name r := by
  cases shape with
  | simple defaultval => simp [Shape.items, Record.object, h.object?]
  | array size =>
      simp [Shape.items, Record.objectArray, h.objectArray?]
  | dynarray => exact h.objectVector
  | endarray => exact h.objectVector

end Replaced

/-!
## What the conversion does
-/

def hasDefault : Metatype -> Bool
  | .simple _ _ (some _) => true
  | .array _ _ _ (some _) => true
  | .string _ (some _) => true
  | .dynstring _ (some _) => true
  | .endstring _ (some _) => true
  | _ => false

def shapeHasDefault : Shape -> Bool
  | .simple (some _) => true
  | _ => false

/-- Whether the conversion assigns the member of a field. -/
def fieldAssigned (version : Version) (cond : Condition) (metatype : Metatype)
    (kind : Kind) (r : Record) : Bool :=
  if cond version r then
    isSimple metatype && decide (kind = Kind.handle)
  else hasDefault metatype

def objectAssigned (version : Version) (cond : Condition) (shape : Shape)
    (r : Record) : Bool :=
  !cond version r && shapeHasDefault shape

def EveryLine (version : Version)
    (holds : String -> Condition -> (assigned : Bool) -> Prop) :
    Description -> Record -> Prop
  | .nil, _ => True
  | .field name cond metatype kind rest, r =>
      holds name cond (fieldAssigned version cond metatype kind r) ∧
        EveryLine version holds rest r
  | .object name cond shape _ rest, r =>
      holds name cond (objectAssigned version cond shape r) ∧
        EveryLine version holds rest r

/-- The names whose members the conversion assigns. -/
def touched (version : Version) : Description -> Record -> List String
  | .nil, _ => []
  | .field name cond metatype kind rest, r =>
      (if fieldAssigned version cond metatype kind r then [name] else []) ++
        touched version rest r
  | .object name cond shape _ rest, r =>
      (if objectAssigned version cond shape r then [name] else []) ++
        touched version rest r

/-- A condition does not read what is under some names. -/
def Steady (version : Version) (names : List String) (r : Record)
    (cond : Condition) : Prop :=
  forall r', (forall other, other ∉ names -> r.SameAt other r') ->
    cond version r' = cond version r

/--
A member is assigned by one line at most: other lines in force are about other
members, and so is a line that gives a default.  No condition reads what is
assigned.
-/
structure Declared (version : Version) (type : Description) (r : Record) :
    Prop where
  once : (touched version type r).Nodup
  lines : EveryLine version (fun name cond assigned =>
    Steady version (touched version type r) r cond ∧
    (cond version r = true -> assigned = false ->
      name ∉ touched version type r) ∧
    (cond version r = false -> assigned = true ->
      name ∉ namesInForce version type r)) type r

/-- An assignment of the member under one name. -/
structure Local (name : String) (step : Record -> Record) : Prop where
  frame : forall {other : String} {r : Record}, other ≠ name ->
    r.SameAt other (step r)
  congr : forall {r r' : Record}, r.SameAt name r' ->
    (step r).SameAt name (step r')

section Steps

variable {f : Handle -> Handle} {version : Version} {name : String}
  {kind : Kind} {metatype : Metatype} {shape : Shape} {r : Record}

theorem local_id (name : String) : Local name fun r => r where
  frame _ := Record.SameAt.refl _ _
  congr h := h

theorem local_setInteger {val : Record -> Int}
    (hval : forall {r r' : Record}, r.SameAt name r' -> val r' = val r) :
    Local name fun r => r.setInteger name (val r) where
  frame hne := ⟨Function.update_of_ne hne _ _, rfl, rfl, rfl, rfl, rfl, rfl⟩
  congr {r r'} h :=
    { h with
      integer := by
        simp only [Record.integer_setInteger, if_true]
        exact hval h }

theorem local_setArray {val : Record -> Nat -> Int}
    (hval : forall {r r' : Record}, r.SameAt name r' -> val r' = val r) :
    Local name fun r => r.setArray name (val r) where
  frame hne := ⟨rfl, Function.update_of_ne hne _ _, rfl, rfl, rfl, rfl, rfl⟩
  congr {r r'} h :=
    { h with
      array := by
        simp only [Record.array_setArray, if_true]
        exact hval h }

theorem local_setString (val : CharString) :
    Local name fun r => r.setString name val where
  frame hne := ⟨rfl, rfl, rfl, Function.update_of_ne hne _ _, rfl, rfl, rfl⟩
  congr {r r'} h :=
    { h with
      string := by simp only [Record.string_setString, if_true] }

theorem local_setObject (val : Record) :
    Local name fun r => r.setObject name val where
  frame hne := ⟨rfl, rfl, rfl, rfl, Function.update_of_ne hne _ _, rfl, rfl⟩
  congr {r r'} h :=
    { h with
      object? := by
        simp only [Record.setObject, Function.update_self] }

theorem local_convertMember :
    Local name fun r => convertMember f name kind r metatype := by
  cases metatype with
  | simple type member defaultval =>
      by_cases hkind : kind = Kind.handle
      · simp only [convertMember, hkind, if_true]
        exact local_setInteger fun h => congrArg f h.integer
      · simp only [convertMember, hkind, if_false]
        exact local_id name
  | _ => exact local_id name

theorem local_copyDefaultValue :
    Local name fun r => metatype.copyDefaultValue name r := by
  cases metatype with
  | simple type member defaultval =>
      cases defaultval with
      | none => exact local_id name
      | some defaultval => exact local_setInteger fun _ => rfl
  | array type member size defaultval =>
      cases defaultval with
      | none => exact local_id name
      | some defaultval =>
          refine local_setArray fun h => ?_
          rw [h.array]
  | string size defaultval =>
      cases defaultval with
      | none => exact local_id name
      | some defaultval => exact local_setString defaultval
  | dynstring hasNullTerminator defaultval =>
      cases defaultval with
      | none => exact local_id name
      | some defaultval => exact local_setString defaultval
  | endstring hasNullTerminator defaultval =>
      cases defaultval with
      | none => exact local_id name
      | some defaultval => exact local_setString defaultval
  | _ => exact local_id name

theorem local_shapeDefault :
    Local name fun r => shape.copyDefaultValue name r := by
  cases shape with
  | simple defaultval =>
      cases defaultval with
      | none => exact local_id name
      | some defaultval => exact local_setObject defaultval
  | _ => exact local_id name

theorem convertMember_idle
    (h : (isSimple metatype && decide (kind = Kind.handle)) = false) :
    convertMember f name kind r metatype = r := by
  cases metatype with
  | simple type member defaultval =>
      have hkind : kind ≠ Kind.handle := by
        simpa [isSimple] using h
      rw [convertMember, if_neg hkind]
  | _ => rfl

theorem copyDefaultValue_idle (h : hasDefault metatype = false) :
    metatype.copyDefaultValue name r = r := by
  cases metatype with
  | simple type member defaultval =>
      cases defaultval with
      | none => rfl
      | some defaultval => cases h
  | array type member size defaultval =>
      cases defaultval with
      | none => rfl
      | some defaultval => cases h
  | string size defaultval =>
      cases defaultval with
      | none => rfl
      | some defaultval => cases h
  | dynstring hasNullTerminator defaultval =>
      cases defaultval with
      | none => rfl
      | some defaultval => cases h
  | endstring hasNullTerminator defaultval =>
      cases defaultval with
      | none => rfl
      | some defaultval => cases h
  | _ => rfl

theorem shapeDefault_idle (h : shapeHasDefault shape = false) :
    shape.copyDefaultValue name r = r := by
  cases shape with
  | simple defaultval =>
      cases defaultval with
      | none => rfl
      | some defaultval => cases h
  | _ => rfl

end Steps

def fieldStep (f : Handle -> Handle) (name : String) (metatype : Metatype)
    (kind : Kind) (inForce : Bool) (r : Record) : Record :=
  if inForce then convertMember f name kind r metatype
  else metatype.copyDefaultValue name r

def objectStep (name : String) (shape : Shape) (inForce : Bool)
    (r : Record) : Record :=
  if inForce then r else shape.copyDefaultValue name r

/-- Every line that assigns a member has done so, from what there was. -/
def Stepped (f : Handle -> Handle) (version : Version) :
    Description -> Record -> Record -> Prop
  | .nil, _, _ => True
  | .field name cond metatype kind rest, r, r' =>
      (fieldAssigned version cond metatype kind r = true ->
        (fieldStep f name metatype kind (cond version r) r).SameAt name r') ∧
        Stepped f version rest r r'
  | .object name cond shape _ rest, r, r' =>
      (objectAssigned version cond shape r = true ->
        (objectStep name shape (cond version r) r).SameAt name r') ∧
        Stepped f version rest r r'

/-- A packet in which the members of some lines are still to be assigned. -/
structure Reached (names later : List String) (r cur : Record) : Prop where
  outside : forall other, other ∉ names -> r.SameAt other cur
  fresh : forall other, other ∈ later -> r.SameAt other cur

section Lines

variable {names later : List String} {name : String} {assigned : Bool}
  {step : Record -> Record} {r cur final : Record}

theorem Reached.next
    (h : Reached names ((if assigned then [name] else []) ++ later) r cur)
    (hstep : Local name step) (hidle : assigned = false -> step cur = cur)
    (hnodup : ((if assigned then [name] else []) ++ later).Nodup)
    (hnames : forall other,
      other ∈ (if assigned then [name] else []) ++ later -> other ∈ names) :
    Reached names later r (step cur) := by
  cases assigned with
  | false =>
      rw [hidle rfl]
      exact ⟨h.outside, h.fresh⟩
  | true =>
      rcases List.nodup_cons.mp hnodup with ⟨hnew, -⟩
      constructor
      · intro other hother
        have hne : other ≠ name := fun heq =>
          hother (heq ▸ hnames name List.mem_cons_self)
        exact (h.outside other hother).trans (hstep.frame hne)
      · intro other hother
        have hne : other ≠ name := fun heq => hnew (heq ▸ hother)
        exact (h.fresh other (List.mem_cons_of_mem name hother)).trans
          (hstep.frame hne)

theorem frame_line (hstep : Local name step)
    (hidle : assigned = false -> step cur = cur)
    (hlater : forall other, other ∉ later ->
      (step cur).SameAt other final) :
    forall other, other ∉ (if assigned then [name] else []) ++ later ->
      cur.SameAt other final := by
  intro other hother
  cases assigned with
  | false =>
      have hlast := hlater other hother
      rw [hidle rfl] at hlast
      exact hlast
  | true =>
      rcases not_or.mp (fun h => hother (List.mem_cons.mpr h)) with
        ⟨hne, hrest⟩
      exact (hstep.frame hne).trans (hlater other hrest)

theorem stepped_line
    (h : Reached names ((if assigned then [name] else []) ++ later) r cur)
    (hstep : Local name step)
    (hnodup : ((if assigned then [name] else []) ++ later).Nodup)
    (hlater : forall other, other ∉ later ->
      (step cur).SameAt other final) (hassigned : assigned = true) :
    (step r).SameAt name final := by
  subst hassigned
  have hfresh : r.SameAt name cur := h.fresh name List.mem_cons_self
  exact (hstep.congr hfresh).trans
    (hlater name (List.nodup_cons.mp hnodup).left)

end Lines

section Conversion

variable {f : Handle -> Handle} {version : Version} {name : String}
  {kind : Kind} {metatype : Metatype} {shape : Shape} {cond : Condition}
  {names : List String} {r cur : Record} {type : Description}

theorem local_fieldStep (inForce : Bool) :
    Local name (fieldStep f name metatype kind inForce) := by
  cases inForce with
  | false => exact local_copyDefaultValue
  | true => exact local_convertMember

theorem local_objectStep (inForce : Bool) :
    Local name (objectStep name shape inForce) := by
  cases inForce with
  | false => exact local_shapeDefault
  | true => exact local_id name

theorem fieldStep_idle
    (h : fieldAssigned version cond metatype kind r = false) :
    fieldStep f name metatype kind (cond version r) cur = cur := by
  rw [fieldAssigned] at h
  cases hcond : cond version r with
  | false =>
      rw [hcond] at h
      exact copyDefaultValue_idle h
  | true =>
      rw [hcond] at h
      exact convertMember_idle h

theorem objectStep_idle (h : objectAssigned version cond shape r = false) :
    objectStep name shape (cond version r) cur = cur := by
  rw [objectAssigned] at h
  cases hcond : cond version r with
  | false =>
      rw [hcond] at h
      exact shapeDefault_idle h
  | true => rfl

/-- The lines assign their members, one after the other, and no others. -/
theorem convertMembers_spec
    (hsteady : EveryLine version (fun _ cond _ => Steady version names r cond)
      type r)
    (hnodup : (touched version type r).Nodup)
    (hnames : forall other, other ∈ touched version type r -> other ∈ names)
    (h : Reached names (touched version type r) r cur) :
    (forall other, other ∉ touched version type r ->
      cur.SameAt other (convertMembers f version type cur)) ∧
    Stepped f version type r (convertMembers f version type cur) := by
  induction type generalizing cur with
  | nil => exact ⟨fun other _ => Record.SameAt.refl other cur, trivial⟩
  | field name cond metatype kind rest ih =>
      have hcond : cond version cur = cond version r :=
        hsteady.left cur h.outside
      have hlocal : Local name
          (fieldStep f name metatype kind (cond version r)) :=
        local_fieldStep (cond version r)
      have hidle : fieldAssigned version cond metatype kind r = false ->
          fieldStep f name metatype kind (cond version r) cur = cur :=
        fieldStep_idle
      have hnext := h.next hlocal hidle hnodup hnames
      have hline : convertMembers f version
          (.field name cond metatype kind rest) cur =
            convertMembers f version rest
              (fieldStep f name metatype kind (cond version r) cur) := by
        rw [convertMembers, hcond, fieldStep]
      rcases ih hsteady.right (List.nodup_append.mp hnodup).2.1
        (fun other hother => hnames other (List.mem_append_right _ hother))
        hnext with ⟨hframe, hstepped⟩
      rw [hline]
      exact ⟨frame_line hlocal hidle hframe,
        stepped_line h hlocal hnodup hframe, hstepped⟩
  | object name cond shape type rest _ ih =>
      have hcond : cond version cur = cond version r :=
        hsteady.left cur h.outside
      have hlocal : Local name (objectStep name shape (cond version r)) :=
        local_objectStep (cond version r)
      have hidle : objectAssigned version cond shape r = false ->
          objectStep name shape (cond version r) cur = cur :=
        objectStep_idle
      have hnext := h.next hlocal hidle hnodup hnames
      have hline : convertMembers f version
          (.object name cond shape type rest) cur =
            convertMembers f version rest
              (objectStep name shape (cond version r) cur) := by
        rw [convertMembers, hcond, objectStep]
      rcases ih hsteady.right (List.nodup_append.mp hnodup).2.1
        (fun other hother => hnames other (List.mem_append_right _ hother))
        hnext with ⟨hframe, hstepped⟩
      rw [hline]
      exact ⟨frame_line hlocal hidle hframe,
        stepped_line h hlocal hnodup hframe, hstepped⟩

theorem EveryLine.mono {holds holds' : String -> Condition -> Bool -> Prop}
    (himp : forall name cond assigned, holds name cond assigned ->
      holds' name cond assigned) (h : EveryLine version holds type r) :
    EveryLine version holds' type r := by
  induction type with
  | nil => trivial
  | field name cond metatype kind rest ih =>
      exact ⟨himp _ _ _ h.left, ih h.right⟩
  | object name cond shape type rest _ ih =>
      exact ⟨himp _ _ _ h.left, ih h.right⟩

variable {final : Record}

/-- Fields in force are those of the packet, but for the packet's handles. -/
theorem fieldsReplaced_iff
    (hlines : EveryLine version (fun name cond assigned =>
      cond version r = true -> assigned = false -> name ∉ names) type r)
    (hframe : forall other, other ∉ names -> r.SameAt other final)
    (hstepped : Stepped f version type r final) :
    FieldsReplaced f version type r final ↔ NoneInside f version type r := by
  induction type with
  | nil => exact Iff.rfl
  | field name cond metatype kind rest ih =>
      refine and_congr (imp_congr_right fun hcond => ?_)
        (ih hlines.right hstepped.right)
      cases hassigned : fieldAssigned version cond metatype kind r with
      | true =>
          have hstep := hstepped.left hassigned
          rw [fieldAssigned, hcond, if_pos rfl, Bool.and_eq_true,
            decide_eq_true_eq] at hassigned
          rcases hassigned with ⟨hsimple, rfl⟩
          rw [hcond] at hstep
          cases metatype with
          | simple type member defaultval =>
              refine iff_of_true ?_ fun h => ?_
              · change final.integer name = f (r.integer name)
                rw [hstep.integer]
                exact Function.update_self _ _ _
              · cases h
          | _ => cases hsimple
      | false =>
          have hsame : r.SameAt name final :=
            hframe name (hlines.left hcond hassigned)
          rw [← fieldReplaced_congr hsame, fieldReplaced_self_iff]
          refine ⟨fun h _ => h, fun h => ?_⟩
          cases hsimple : isSimple metatype with
          | false => exact h hsimple
          | true =>
              rw [fieldAssigned, hcond, if_pos rfl, hsimple,
                Bool.true_and] at hassigned
              have hkind : kind ≠ Kind.handle :=
                of_decide_eq_false hassigned
              cases metatype with
              | simple type member defaultval =>
                  exact fun heq => absurd heq hkind
              | _ => cases hsimple
  | object name cond shape type rest _ ih =>
      refine and_congr (imp_congr_right fun hcond => ?_)
        (ih hlines.right hstepped.right)
      have hidle : objectAssigned version cond shape r = false := by
        rw [objectAssigned, hcond]
        rfl
      have hsame : r.SameAt name final :=
        hframe name (hlines.left hcond hidle)
      rw [items_congr hsame, List.forall₂_same]
      refine forall₂_congr fun item _ => ?_
      exact (and_iff_left untouched_refl).trans fieldsReplaced_self_iff

theorem defaultsKept_of_untouched
    (hlines : EveryLine version (fun name cond assigned =>
      cond version r = false -> assigned = true -> r.SameAt name final) type r)
    (hstepped : Stepped f version type r final) :
    DefaultsKept version type r := by
  induction type with
  | nil => trivial
  | field name cond metatype kind rest ih =>
      refine ⟨fun hcond => ?_, ih hlines.right hstepped.right⟩
      cases hassigned : fieldAssigned version cond metatype kind r with
      | true =>
          have hstep := hstepped.left hassigned
          rw [hcond] at hstep
          exact (hlines.left hcond hassigned).trans hstep.symm
      | false =>
          rw [fieldAssigned, hcond] at hassigned
          rw [copyDefaultValue_idle hassigned]
          exact Record.SameAt.refl name r
  | object name cond shape type rest _ ih =>
      refine ⟨fun hcond => ?_, ih hlines.right hstepped.right⟩
      cases hassigned : objectAssigned version cond shape r with
      | true =>
          have hstep := hstepped.left hassigned
          rw [hcond] at hstep
          exact (hlines.left hcond hassigned).trans hstep.symm
      | false =>
          rw [objectAssigned, hcond] at hassigned
          rw [shapeDefault_idle hassigned]
          exact Record.SameAt.refl name r

/-- What is assigned out of force is a default. -/
theorem sameAt_of_defaultsKept (hkept : DefaultsKept version type r)
    (hstepped : Stepped f version type r final)
    (htouched : name ∈ touched version type r)
    (hother : name ∉ namesInForce version type r) : r.SameAt name final := by
  induction type with
  | nil => cases htouched
  | field name' cond metatype kind rest ih =>
      rcases not_or.mp (fun h => hother (List.mem_append.mpr h)) with
        ⟨hfirst, hrest⟩
      rcases List.mem_append.mp htouched with hhere | hlater
      · cases hassigned : fieldAssigned version cond metatype kind r with
        | false => simp [hassigned] at hhere
        | true =>
            have hname : name = name' := by simpa [hassigned] using hhere
            subst hname
            have hcond : cond version r = false := by
              cases hcond : cond version r with
              | false => rfl
              | true => simp [hcond] at hfirst
            have hstep := hstepped.left hassigned
            rw [hcond] at hstep
            exact (hkept.left hcond).trans hstep
      · exact ih hkept.right hstepped.right hlater hrest
  | object name' cond shape type rest _ ih =>
      rcases not_or.mp (fun h => hother (List.mem_append.mpr h)) with
        ⟨hfirst, hrest⟩
      rcases List.mem_append.mp htouched with hhere | hlater
      · cases hassigned : objectAssigned version cond shape r with
        | false => simp [hassigned] at hhere
        | true =>
            have hname : name = name' := by simpa [hassigned] using hhere
            subst hname
            have hcond : cond version r = false := by
              cases hcond : cond version r with
              | false => rfl
              | true => simp [hcond] at hfirst
            have hstep := hstepped.left hassigned
            rw [hcond] at hstep
            exact (hkept.left hcond).trans hstep
      · exact ih hkept.right hstepped.right hlater hrest

theorem convertMembers_replaces_iff (h : Declared version type r) :
    HandlesReplaced f version type r (convertMembers f version type r) ↔
      NoneInside f version type r ∧ DefaultsKept version type r := by
  have hreached : Reached (touched version type r) (touched version type r) r
      r :=
    ⟨fun other _ => Record.SameAt.refl other r,
      fun other _ => Record.SameAt.refl other r⟩
  rcases convertMembers_spec (f := f) (h.lines.mono fun _ _ _ hline =>
    hline.left) h.once (fun _ hother => hother) hreached with
    ⟨hframe, hstepped⟩
  have hfields := fieldsReplaced_iff
    (h.lines.mono fun _ _ _ hline => hline.right.left) hframe hstepped
  constructor
  · intro hreplaced
    refine ⟨hfields.mp hreplaced.fields, ?_⟩
    refine defaultsKept_of_untouched (h.lines.mono ?_) hstepped
    intro name cond assigned hline hcond hassigned
    exact hreplaced.others name (hline.right.right hcond hassigned)
  · intro hboth
    refine ⟨hfields.mpr hboth.left, fun name hother => ?_⟩
    by_cases htouched : name ∈ touched version type r
    · exact sameAt_of_defaultsKept hboth.right hstepped htouched hother
    · exact hframe name htouched

end Conversion

/--
The conversion of a packet replaces every handle, and nothing else, exactly if
no array, vector or object has a handle to be replaced and the fields out of
force have their defaults.
-/
theorem convertPacketHandles_replaces_iff (localPlayerClientHandle : Handle)
    (targetServer : TargetServer) (version : Version) (type : Description)
    (r : Record) (h : Declared version type r) :
    HandlesReplaced (convertHandle localPlayerClientHandle targetServer)
        version type r
        (convertPacketHandles localPlayerClientHandle targetServer version
          type r) ↔
      NoneInside (convertHandle localPlayerClientHandle targetServer) version
          type r ∧
        DefaultsKept version type r :=
  convertMembers_replaces_iff h

/-- `TS_CS_GET_BOOTHS_NAME` -/
def getBoothsName : Description :=
  .field "handles" always (.count int32 .vector none) Kind.integer <|
  .field "handles" always (.dynarray uint32 uint32) Kind.handle .nil

/-- The client asks for the name of one booth. -/
def boothOf (handle : Handle) : Record :=
  Record.zero.setVector "handles" [handle]

theorem declared_getBoothsName (version : Version) (r : Record) :
    Declared version getBoothsName r where
  once := List.nodup_nil
  lines := by
    refine ⟨⟨fun _ _ => rfl, fun _ _ => List.not_mem_nil, fun h => ?_⟩,
      ⟨fun _ _ => rfl, fun _ _ => List.not_mem_nil, fun h => ?_⟩, trivial⟩
    · cases h
    · cases h

theorem convertPacketHandles_getBoothsName :
    HandlesReplaced (convertHandle 5 ⟨true, 9⟩) EPIC_9_6_7 getBoothsName
        (boothOf 7)
        (convertPacketHandles 5 ⟨true, 9⟩ EPIC_9_6_7 getBoothsName
          (boothOf 7)) ↔
      NoneInside (convertHandle 5 ⟨true, 9⟩) EPIC_9_6_7 getBoothsName
          (boothOf 7) ∧
        DefaultsKept EPIC_9_6_7 getBoothsName (boothOf 7) :=
  convertPacketHandles_replaces_iff 5 ⟨true, 9⟩ EPIC_9_6_7 getBoothsName
    (boothOf 7) (declared_getBoothsName EPIC_9_6_7 (boothOf 7))

/-- The client's player, 5, has a booth; the server knows the player as 9. -/
theorem not_handlesReplaced_getBoothsName :
    ¬HandlesReplaced (convertHandle 5 ⟨true, 9⟩) EPIC_9_6_7 getBoothsName
      (boothOf 5)
      (convertPacketHandles 5 ⟨true, 9⟩ EPIC_9_6_7 getBoothsName
        (boothOf 5)) := by
  intro h
  have hvector : [5] = [convertHandle 5 ⟨true, 9⟩ 5] :=
    h.fields.right.left rfl
  exact absurd hvector (by decide)

end Mirror
end Rzu
