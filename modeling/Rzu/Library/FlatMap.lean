import Mathlib.Data.List.Basic
import Mathlib.Order.Lattice

/-!
# Flat maps

A map that is kept as a list of its elements in the order of their keys.  Every
element knows its own key, and no two have the same.
-/

namespace Rzu
namespace Library

/-- Elements in strictly increasing order of their keys. -/
structure FlatMap {α κ : Type _} [LT κ] (key : α -> κ) where
  elements : List α
  sorted : elements.Pairwise fun x y => key x < key y

namespace FlatMap

variable {α κ : Type _} [LinearOrder κ] {key : α -> κ}

@[ext] theorem ext {m m' : FlatMap key} (h : m.elements = m'.elements) :
    m = m' := by
  cases m
  cases m'
  cases h
  rfl

def empty : FlatMap key where
  elements := []
  sorted := List.Pairwise.nil

def find? (m : FlatMap key) (k : κ) : Option α :=
  m.elements.find? fun x => key x = k

/-- The place of a new element is before the first with a larger key. -/
def insertInto (key : α -> κ) (a : α) : List α -> List α
  | [] => [a]
  | x :: rest =>
      if key a < key x then a :: x :: rest
      else if key x < key a then x :: insertInto key a rest
      else x :: rest

theorem mem_insertInto {a x : α} {xs : List α}
    (h : x ∈ insertInto key a xs) : x = a ∨ x ∈ xs := by
  induction xs with
  | nil => exact Or.inl (List.mem_singleton.mp h)
  | cons first rest ih =>
      rw [insertInto] at h
      split at h
      · exact List.mem_cons.mp h
      · split at h
        · rcases List.mem_cons.mp h with hfirst | hrest
          · exact Or.inr (List.mem_cons.mpr (Or.inl hfirst))
          · rcases ih hrest with ha | hmem
            · exact Or.inl ha
            · exact Or.inr (List.mem_cons.mpr (Or.inr hmem))
        · exact Or.inr h

theorem insertInto_sorted {a : α} {xs : List α}
    (h : xs.Pairwise fun x y => key x < key y) :
    (insertInto key a xs).Pairwise fun x y => key x < key y := by
  induction xs with
  | nil => exact List.pairwise_singleton _ _
  | cons first rest ih =>
      rcases List.pairwise_cons.mp h with ⟨hfirst, hrest⟩
      rw [insertInto]
      split
      · rename_i hlt
        refine List.pairwise_cons.mpr ⟨?_, h⟩
        intro x hx
        rcases List.mem_cons.mp hx with heq | hx
        · rw [heq]
          exact hlt
        · exact lt_trans hlt (hfirst x hx)
      · split
        · rename_i hlt
          refine List.pairwise_cons.mpr ⟨?_, ih hrest⟩
          intro x hx
          rcases mem_insertInto hx with heq | hx
          · rw [heq]
            exact hlt
          · exact hfirst x hx
        · exact h

/-- An element is inserted unless there is one with its key. -/
def insert (m : FlatMap key) (a : α) : FlatMap key where
  elements := insertInto key a m.elements
  sorted := insertInto_sorted m.sorted

def insertAll (m : FlatMap key) (xs : List α) : FlatMap key :=
  xs.foldl insert m

theorem mem_insertAll {m : FlatMap key} {xs : List α} {a : α}
    (h : a ∈ (m.insertAll xs).elements) : a ∈ m.elements ∨ a ∈ xs := by
  induction xs generalizing m with
  | nil => exact Or.inl h
  | cons first rest ih =>
      rcases ih h with hinsert | hrest
      · rcases mem_insertInto hinsert with heq | hold
        · rw [heq]
          exact Or.inr List.mem_cons_self
        · exact Or.inl hold
      · exact Or.inr (List.mem_cons_of_mem _ hrest)

def filter (m : FlatMap key) (p : α -> Bool) : FlatMap key where
  elements := m.elements.filter p
  sorted := m.sorted.filter p

/-- Elements are changed, their keys are not. -/
def map (m : FlatMap key) (f : α -> α) (hf : forall x, key (f x) = key x) :
    FlatMap key where
  elements := m.elements.map f
  sorted := by
    refine List.pairwise_map.mpr (m.sorted.imp ?_)
    intro x y h
    rw [hf, hf]
    exact h

/-- The element with a key is changed. -/
def modify (m : FlatMap key) (k : κ) (f : α -> α)
    (hf : forall x, key (f x) = key x) : FlatMap key :=
  m.map (fun x => if key x = k then f x else x) (by
    intro x
    split
    · exact hf x
    · rfl)

/-!
## What is found
-/

theorem find?_empty (k : κ) : (empty : FlatMap key).find? k = none := rfl

theorem key_of_find? {m : FlatMap key} {k : κ} {x : α}
    (h : m.find? k = some x) : key x = k := by
  simpa using List.find?_some h

theorem mem_of_find? {m : FlatMap key} {k : κ} {x : α}
    (h : m.find? k = some x) : x ∈ m.elements :=
  List.mem_of_find?_eq_some h

theorem find?_of_mem {m : FlatMap key} {x : α} (h : x ∈ m.elements) :
    m.find? (key x) = some x := by
  have hsorted := m.sorted
  rw [find?]
  generalize m.elements = xs at h hsorted
  induction xs with
  | nil => cases h
  | cons first rest ih =>
      rcases List.pairwise_cons.mp hsorted with ⟨hfirst, hrest⟩
      rcases List.mem_cons.mp h with heq | hmem
      · subst heq
        exact List.find?_cons_of_pos (by simp)
      · rw [List.find?_cons_of_neg (by simpa using ne_of_lt (hfirst x hmem))]
        exact ih hmem hrest

theorem mem_iff_find? {m : FlatMap key} {x : α} :
    x ∈ m.elements ↔ m.find? (key x) = some x :=
  ⟨find?_of_mem, mem_of_find?⟩

theorem find?_map (m : FlatMap key) {f : α -> α}
    (hf : forall x, key (f x) = key x) (k : κ) :
    (m.map f hf).find? k = (m.find? k).map f := by
  change (m.elements.map f).find? _ = _
  rw [List.find?_map]
  have hcomp : (fun x => decide (key x = k)) ∘ f =
      fun x => decide (key x = k) := by
    funext x
    simp only [Function.comp, hf]
  rw [hcomp]
  rfl

theorem find?_modify (m : FlatMap key) {f : α -> α}
    (hf : forall x, key (f x) = key x) (k k' : κ) :
    (m.modify k f hf).find? k' =
      if k' = k then (m.find? k').map f else m.find? k' := by
  rw [modify, find?_map]
  cases hfound : m.find? k' with
  | none => simp
  | some x =>
      have hkey := key_of_find? hfound
      simp only [Option.map_some, hkey]
      split
      · rfl
      · rfl

theorem find?_filter (m : FlatMap key) (p : α -> Bool) (k : κ) :
    (m.filter p).find? k = (m.find? k).filter p := by
  cases hfound : (m.filter p).find? k with
  | none =>
      cases hold : m.find? k with
      | none => rfl
      | some x =>
          have hkey := key_of_find? hold
          have hp : ¬p x = true := by
            intro hp
            have hmem : x ∈ (m.filter p).elements :=
              List.mem_filter.mpr ⟨mem_of_find? hold, hp⟩
            rw [← hkey, find?_of_mem hmem] at hfound
            cases hfound
          rw [Option.filter_some, if_neg hp]
  | some x =>
      have hkey := key_of_find? hfound
      rcases List.mem_filter.mp (mem_of_find? hfound) with ⟨hmem, hp⟩
      have hold : m.find? k = some x := by
        rw [← hkey]
        exact find?_of_mem hmem
      rw [hold, Option.filter_some, if_pos hp]

theorem find?_insert (m : FlatMap key) (a : α) (k : κ) :
    (m.insert a).find? k =
      (m.find? k).or (if key a = k then some a else none) := by
  change (insertInto key a m.elements).find? _ =
    (m.elements.find? _).or _
  have hsorted := m.sorted
  generalize m.elements = xs at hsorted
  induction xs with
  | nil =>
      by_cases hk : key a = k
      · simp [insertInto, hk]
      · simp [insertInto, hk]
  | cons first rest ih =>
      rcases List.pairwise_cons.mp hsorted with ⟨hfirst, hrest⟩
      rw [insertInto]
      split
      · rename_i hlt
        by_cases hk : key a = k
        · have hnone : (first :: rest).find? (fun x => key x = k) = none := by
            refine List.find?_eq_none.mpr ?_
            intro x hx
            have hax : key a < key x := by
              rcases List.mem_cons.mp hx with heq | hx
              · rw [heq]
                exact hlt
              · exact lt_trans hlt (hfirst x hx)
            simpa [← hk] using ne_of_gt hax
          rw [hnone, if_pos hk, List.find?_cons_of_pos (by simpa using hk)]
          rfl
        · rw [List.find?_cons_of_neg (by simpa using hk), if_neg hk,
            Option.or_none]
      · split
        · rename_i hlt
          by_cases hk : key first = k
          · rw [List.find?_cons_of_pos (by simpa using hk),
              List.find?_cons_of_pos (by simpa using hk)]
            rfl
          · rw [List.find?_cons_of_neg (by simpa using hk),
              List.find?_cons_of_neg (by simpa using hk)]
            exact ih hrest
        · rename_i hle hge
          have hsame : key a = key first :=
            le_antisymm (not_lt.mp hge) (not_lt.mp hle)
          by_cases hk : key first = k
          · rw [List.find?_cons_of_pos (by simpa using hk)]
            rfl
          · rw [if_neg (by rw [hsame]; exact hk), Option.or_none]

theorem find?_insertAll (m : FlatMap key) (xs : List α) (k : κ) :
    (m.insertAll xs).find? k =
      (m.find? k).or (xs.find? fun x => key x = k) := by
  induction xs generalizing m with
  | nil => exact (Option.or_none).symm
  | cons first rest ih =>
      change ((m.insert first).insertAll rest).find? k = _
      rw [ih, find?_insert, Option.or_assoc, List.find?_cons]
      by_cases hkey : key first = k
      · rw [if_pos hkey, decide_eq_true hkey]
        rfl
      · rw [if_neg hkey, decide_eq_false hkey]
        rfl

theorem ext_find? {m m' : FlatMap key}
    (h : forall k, m.find? k = m'.find? k) : m = m' := by
  have hnodup : forall m : FlatMap key, m.elements.Nodup := by
    intro m
    refine m.sorted.imp ?_
    intro x y hlt heq
    rw [heq] at hlt
    exact lt_irrefl _ hlt
  apply ext
  refine List.Perm.eq_of_pairwise (fun x y _ _ hxy hyx =>
    absurd hyx (not_lt.mpr (le_of_lt hxy))) m.sorted m'.sorted ?_
  refine (List.perm_ext_iff_of_nodup (hnodup m) (hnodup m')).mpr ?_
  intro x
  rw [mem_iff_find?, mem_iff_find?, h]

/-!
## Inserting what was taken out
-/

theorem insertInto_of_lt {a : α} {xs : List α}
    (h : forall x, x ∈ xs -> key x < key a) :
    insertInto key a xs = xs ++ [a] := by
  induction xs with
  | nil => rfl
  | cons first rest ih =>
      have hfirst := h first (List.mem_cons_self)
      rw [insertInto, if_neg (not_lt.mpr (le_of_lt hfirst)), if_pos hfirst,
        ih fun x hx => h x (List.mem_cons_of_mem _ hx), List.cons_append]

theorem insertAll_sorted (m : FlatMap key) {xs : List α}
    (h : (m.elements ++ xs).Pairwise fun x y => key x < key y) :
    (m.insertAll xs).elements = m.elements ++ xs := by
  induction xs generalizing m with
  | nil => exact (List.append_nil _).symm
  | cons first rest ih =>
      have hbefore := (List.pairwise_append.mp h).right.right
      have hinsert : (m.insert first).elements = m.elements ++ [first] :=
        insertInto_of_lt fun x hx =>
          hbefore x hx first List.mem_cons_self
      have hrest := ih (m.insert first) (by
        rw [hinsert, List.append_assoc]
        exact h)
      rw [hinsert, List.append_assoc] at hrest
      exact hrest

theorem insertAll_map (m : FlatMap key) {f : α -> α}
    (hf : forall x, key (f x) = key x) :
    (empty : FlatMap key).insertAll (m.elements.map f) = m.map f hf := by
  apply ext
  exact insertAll_sorted empty (m.map f hf).sorted

end FlatMap

end Library
end Rzu
