import Mathlib.Data.List.AList

/-!
# Unordered maps

Maps with at most one value under a key.  Which of their entries comes first
when they are visited is not specified.
-/

namespace Rzu
namespace Library

abbrev UnorderedMap (κ α : Type) := AList fun _ : κ => α

namespace UnorderedMap

variable {κ α : Type} [DecidableEq κ]

/-- What every entry has. -/
def Every (holds : κ -> α -> Prop) (m : UnorderedMap κ α) : Prop :=
  forall k a, m.lookup k = some a -> holds k a

section Every

variable {holds : κ -> α -> Prop} {m : UnorderedMap κ α}

theorem every_empty : Every holds (∅ : UnorderedMap κ α) := by
  intro k a h
  rw [AList.lookup_empty] at h
  cases h

theorem Every.insert (h : Every holds m) {k : κ} {a : α} (ha : holds k a) :
    Every holds (m.insert k a) := by
  intro k' a' hlookup
  by_cases hk : k' = k
  · subst hk
    rw [AList.lookup_insert] at hlookup
    cases hlookup
    exact ha
  · rw [AList.lookup_insert_ne hk] at hlookup
    exact h k' a' hlookup

theorem Every.erase (h : Every holds m) (k : κ) : Every holds (m.erase k) := by
  intro k' a' hlookup
  by_cases hk : k' = k
  · subst hk
    rw [AList.lookup_erase] at hlookup
    cases hlookup
  · rw [AList.lookup_erase_ne hk] at hlookup
    exact h k' a' hlookup

theorem every_iff_entries :
    Every holds m ↔ forall e, e ∈ m.entries -> holds e.1 e.2 := by
  constructor
  · intro h e he
    exact h e.1 e.2 (AList.mem_lookup_iff.mpr he)
  · intro h k a hlookup
    exact h ⟨k, a⟩ (AList.mem_lookup_iff.mp hlookup)

end Every

theorem mem_iff_lookup {m : UnorderedMap κ α} {k : κ} :
    k ∈ m ↔ exists a, m.lookup k = some a := by
  rw [← AList.lookup_isSome, Option.isSome_iff_exists]

theorem lookup_insert_eq (m : UnorderedMap κ α) (k k' : κ) (a : α) :
    (m.insert k a).lookup k' = if k' = k then some a else m.lookup k' := by
  by_cases hk : k' = k
  · rw [if_pos hk, hk, AList.lookup_insert]
  · rw [if_neg hk, AList.lookup_insert_ne hk]

theorem lookup_erase_eq (m : UnorderedMap κ α) (k k' : κ) :
    (m.erase k).lookup k' = if k' = k then none else m.lookup k' := by
  by_cases hk : k' = k
  · rw [if_pos hk, hk, AList.lookup_erase]
  · rw [if_neg hk, AList.lookup_erase_ne hk]

/-!
## Inserting many entries
-/

/-- An entry for every element of a list, one after the other. -/
def insertAll {γ : Type} (key : γ -> κ) (value : γ -> α) (xs : List γ)
    (m : UnorderedMap κ α) : UnorderedMap κ α :=
  xs.foldl (fun m x => m.insert (key x) (value x)) m

section InsertAll

variable {γ : Type} {key : γ -> κ} {value : γ -> α} {xs : List γ}
  {m : UnorderedMap κ α} {k : κ}

theorem mem_insertAll :
    k ∈ insertAll key value xs m ↔ (exists x, x ∈ xs ∧ key x = k) ∨ k ∈ m := by
  induction xs generalizing m with
  | nil => simp [insertAll]
  | cons x xs ih =>
      change k ∈ insertAll key value xs (m.insert (key x) (value x)) ↔ _
      have hinsert : k ∈ AList.insert (key x) (value x) m ↔
          k = key x ∨ k ∈ m := AList.mem_insert _
      rw [ih, hinsert]
      simp only [List.mem_cons, exists_eq_or_imp, eq_comm (a := key x)]
      exact or_assoc.symm.trans (or_congr_left or_comm)

theorem lookup_insertAll {a : α}
    (hsame : forall x, x ∈ xs -> key x = k -> value x = a)
    (hsome : m.lookup k = some a ∨ exists x, x ∈ xs ∧ key x = k) :
    (insertAll key value xs m).lookup k = some a := by
  induction xs generalizing m with
  | nil => simpa [insertAll] using hsome
  | cons x xs ih =>
      change (insertAll key value xs (m.insert (key x) (value x))).lookup k = _
      refine ih (fun x' hx' => hsame x' (List.mem_cons_of_mem x hx')) ?_
      by_cases hk : key x = k
      · left
        rw [← hk, AList.lookup_insert, hsame x List.mem_cons_self hk]
      · rw [AList.lookup_insert_ne (Ne.symm hk)]
        rcases hsome with hm | ⟨x', hx', hkey⟩
        · exact Or.inl hm
        · rcases List.mem_cons.mp hx' with heq | hrest
          · subst heq
            exact absurd hkey hk
          · exact Or.inr ⟨x', hrest, hkey⟩

end InsertAll

/-!
## Visiting
-/

/-- An order in which the entries of a map are visited. -/
structure Visit (κ α : Type) where
  order : UnorderedMap κ α -> List (Sigma fun _ : κ => α)
  perm : forall m, (order m).Perm m.entries

namespace Visit

/-- The order in which the entries are kept. -/
def kept : Visit κ α where
  order m := m.entries
  perm _ := List.Perm.refl _

/-- The first entry with a property, with its key. -/
def find? (v : Visit κ α) (m : UnorderedMap κ α) (p : κ -> α -> Bool) :
    Option (Sigma fun _ : κ => α) :=
  (v.order m).find? fun e => p e.1 e.2

variable {v : Visit κ α} {m : UnorderedMap κ α} {p : κ -> α -> Bool}

omit [DecidableEq κ] in
theorem of_find? {e : Sigma fun _ : κ => α} (h : v.find? m p = some e) :
    p e.1 e.2 = true := by
  simpa using List.find?_some h

theorem mem_order {e : Sigma fun _ : κ => α} :
    e ∈ v.order m ↔ m.lookup e.1 = some e.2 := by
  rw [(v.perm m).mem_iff]
  exact AList.mem_lookup_iff.symm

theorem lookup_of_find? {e : Sigma fun _ : κ => α}
    (h : v.find? m p = some e) : m.lookup e.1 = some e.2 :=
  mem_order.mp (List.mem_of_find?_eq_some h)

theorem find?_eq_none :
    v.find? m p = none ↔ Every (fun k a => p k a = false) m := by
  rw [find?, List.find?_eq_none]
  constructor
  · intro h k a hlookup
    have hmem : (⟨k, a⟩ : Sigma fun _ : κ => α) ∈ v.order m :=
      mem_order.mpr hlookup
    simpa using h _ hmem
  · intro h e he
    simpa using h e.1 e.2 (mem_order.mp he)

theorem exists_find? :
    (exists e, v.find? m p = some e) ↔
      exists k a, m.lookup k = some a ∧ p k a = true := by
  constructor
  · intro h
    rcases h with ⟨e, he⟩
    exact ⟨e.1, e.2, lookup_of_find? he, of_find? he⟩
  · intro h
    rcases h with ⟨k, a, hlookup, hp⟩
    cases hfind : v.find? m p with
    | some e => exact ⟨e, rfl⟩
    | none =>
        have hfalse : p k a = false := find?_eq_none.mp hfind k a hlookup
        rw [hp] at hfalse
        cases hfalse

end Visit

end UnorderedMap

end Library
end Rzu
