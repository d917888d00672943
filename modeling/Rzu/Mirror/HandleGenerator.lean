import Mathlib.Data.Finset.Basic
import Mathlib.Data.Fintype.Basic
import Rzu.Library.Run

/-!
# Handles that are handed out and released

A generator numbers handles from zero and keeps those that were released.  It
takes a released handle from the front of its list, and shortens the list at
the back: the handle stays in the list unless it is alone there.
-/

namespace Rzu
namespace Mirror

open Library

variable {w : Nat}

structure HandleGenerator (w : Nat) where
  freeIds : List (BitVec w)
  greatestUsedId : BitVec w
deriving DecidableEq

namespace HandleGenerator

def create : HandleGenerator w := ⟨[], 0⟩

def allocateId (g : HandleGenerator w) : BitVec w × HandleGenerator w :=
  match g.freeIds with
  | [] => (g.greatestUsedId, { g with greatestUsedId := g.greatestUsedId + 1 })
  | value :: rest => (value, { g with freeIds := (value :: rest).dropLast })

def freeId (g : HandleGenerator w) (id : BitVec w) : HandleGenerator w :=
  { g with freeIds := g.freeIds ++ [id] }

end HandleGenerator

/-- A generator with the handles that its users got and have. -/
structure HandleUse (w : Nat) where
  generator : HandleGenerator w
  /-- The handles that were ever returned. -/
  issued : Finset (BitVec w)
  inUse : Finset (BitVec w)
deriving DecidableEq

inductive HandleCall (w : Nat) where
  | allocateId
  | freeId (id : BitVec w)
deriving DecidableEq

namespace HandleUse

def create : HandleUse w := ⟨HandleGenerator.create, ∅, ∅⟩

def call (u : HandleUse w) : HandleCall w -> Option (HandleUse w)
  | .allocateId =>
      let (id, generator) := u.generator.allocateId
      some ⟨generator, insert id u.issued, insert id u.inUse⟩
  | .freeId id =>
      if id ∈ u.inUse then
        some ⟨u.generator.freeId id, u.issued, u.inUse.erase id⟩
      else none

def Step (u : HandleUse w) (c : HandleCall w) (u' : HandleUse w) : Prop :=
  u.call c = some u'

instance (u : HandleUse w) (c : HandleCall w) (u' : HandleUse w) :
    Decidable (u.Step c u') :=
  inferInstanceAs (Decidable (u.call c = some u'))

/-- Each handle that was returned and is not in use is listed once. -/
def Lists (u : HandleUse w) : Prop :=
  forall id, u.generator.freeIds.count id =
    if id ∈ u.issued ∧ id ∉ u.inUse then 1 else 0

/--
A call that returns no handle in use, and after which each released handle is
there to be returned once.
-/
def Fresh (u : HandleUse w) (c : HandleCall w) (u' : HandleUse w) : Prop :=
  (c = .allocateId -> u.generator.allocateId.1 ∉ u.inUse) ∧ u'.Lists

/-- A call with several handles to choose from, or with none. -/
def Repeats (u : HandleUse w) (c : HandleCall w) : Prop :=
  c = .allocateId ∧ (2 ≤ u.generator.freeIds.length ∨
    u.generator.freeIds = [] ∧ forall id, id ∈ u.inUse)

/-- The handles were numbered in the order in which they were first returned. -/
structure Numbered (u : HandleUse w) (count : Nat) : Prop where
  next : u.generator.greatestUsedId = BitVec.ofNat w count
  issued : forall id, id ∈ u.issued ↔ id.toNat < count
  used : u.inUse ⊆ u.issued

/-- Handles are listed, and numbered. -/
def Ordered (u : HandleUse w) : Prop :=
  u.Lists ∧ exists count, u.Numbered count

theorem step_deterministic : Deterministic (Step (w := w)) := by
  intro u c u' u'' hstep hstep'
  rw [Step] at hstep hstep'
  rw [hstep] at hstep'
  cases hstep'
  rfl

theorem ordered_create : (create (w := w)).Ordered := by
  refine ⟨fun id => ?_, 0, rfl, fun id => ?_, Finset.Subset.refl _⟩
  · rw [if_neg fun h => absurd h.left (Finset.notMem_empty id)]
    rfl
  · exact ⟨fun h => absurd h (Finset.notMem_empty id), fun h => by lia⟩

section Calls

variable {u u' : HandleUse w} {id : BitVec w} {count : Nat}

theorem toNat_lt_succ_iff :
    id.toNat < count + 1 ↔ id = BitVec.ofNat w count ∨ id.toNat < count := by
  constructor
  · intro h
    rcases Nat.lt_or_ge id.toNat count with hlt | hge
    · exact Or.inr hlt
    · have heq : id.toNat = count := by lia
      refine Or.inl ?_
      rw [← heq, BitVec.ofNat_toNat, BitVec.setWidth_eq]
  · rintro (heq | hlt)
    · have hle : id.toNat ≤ count := by
        rw [heq, BitVec.toNat_ofNat]
        exact Nat.mod_le _ _
      lia
    · lia

theorem call_allocateId (h : u.Step .allocateId u') :
    (u.generator.freeIds = [] ∧ u' =
      ⟨⟨[], u.generator.greatestUsedId + 1⟩,
        insert u.generator.greatestUsedId u.issued,
        insert u.generator.greatestUsedId u.inUse⟩ ∧
      u.generator.allocateId.1 = u.generator.greatestUsedId) ∨
    (exists id rest, u.generator.freeIds = id :: rest ∧ u' =
      ⟨⟨(id :: rest).dropLast, u.generator.greatestUsedId⟩,
        insert id u.issued, insert id u.inUse⟩ ∧
      u.generator.allocateId.1 = id) := by
  rcases u with ⟨⟨freeIds, greatestUsedId⟩, issued, inUse⟩
  cases freeIds with
  | nil =>
      cases h
      exact Or.inl ⟨rfl, rfl, rfl⟩
  | cons id rest =>
      cases h
      exact Or.inr ⟨id, rest, rfl, rfl, rfl⟩

theorem call_freeId (h : u.Step (.freeId id) u') :
    id ∈ u.inUse ∧
      u' = ⟨u.generator.freeId id, u.issued, u.inUse.erase id⟩ := by
  rw [Step, call] at h
  split at h
  · rename_i hin
    cases h
    exact ⟨hin, rfl⟩
  · cases h

theorem mem_freeIds (h : u.Lists) :
    id ∈ u.generator.freeIds ↔ id ∈ u.issued ∧ id ∉ u.inUse := by
  rw [← List.count_pos_iff, h id]
  split
  · rename_i hreleased
    exact ⟨fun _ => hreleased, fun _ => Nat.one_pos⟩
  · rename_i hreleased
    exact ⟨fun hpos => absurd hpos (Nat.lt_irrefl 0),
      fun hboth => absurd hboth hreleased⟩

theorem inUse_of_nothingFree (h : u.Lists)
    (hfree : u.generator.freeIds = []) (hissued : id ∈ u.issued) :
    id ∈ u.inUse := by
  by_contra hin
  have hmem := (mem_freeIds h).mpr ⟨hissued, hin⟩
  rw [hfree] at hmem
  exact absurd hmem List.not_mem_nil

theorem greatestUsedId_notMem (h : u.Lists) (hnumbered : u.Numbered count)
    (hfree : u.generator.freeIds = []) (hleft : ¬forall id, id ∈ u.inUse) :
    u.generator.greatestUsedId ∉ u.issued := by
  rcases not_forall.mp hleft with ⟨id, hid⟩
  have hlt : count < 2 ^ w := by
    have hnot : ¬id.toNat < count := by
      intro hlt
      exact hid (inUse_of_nothingFree h hfree
        ((hnumbered.issued id).mpr hlt))
    have hbound := id.isLt
    lia
  rw [hnumbered.issued, hnumbered.next, BitVec.toNat_ofNat,
    Nat.mod_eq_of_lt hlt]
  exact Nat.lt_irrefl count

theorem numbered_of_step {c : HandleCall w} (hlists : u.Lists)
    (hnumbered : u.Numbered count) (hstep : u.Step c u') :
    exists count', u'.Numbered count' := by
  cases c with
  | allocateId =>
      rcases call_allocateId hstep with ⟨-, rfl, -⟩ | ⟨id, rest, hfree, rfl, -⟩
      · refine ⟨count + 1, ?_, fun id => ?_, ?_⟩
        · change u.generator.greatestUsedId + 1 = _
          rw [hnumbered.next]
          exact BitVec.ofNat_add_ofNat count 1
        · change id ∈ insert _ u.issued ↔ _
          rw [Finset.mem_insert, hnumbered.next, hnumbered.issued,
            toNat_lt_succ_iff]
        · exact Finset.insert_subset_insert _ hnumbered.used
      · have hissued : id ∈ u.issued := by
          apply And.left
          rw [← mem_freeIds hlists, hfree]
          exact List.mem_cons_self
        refine ⟨count, hnumbered.next, fun id' => ?_, ?_⟩
        · change id' ∈ insert id u.issued ↔ _
          rw [Finset.insert_eq_of_mem hissued]
          exact hnumbered.issued id'
        · exact Finset.insert_subset_insert _ hnumbered.used
  | freeId id =>
      rcases call_freeId hstep with ⟨-, rfl⟩
      refine ⟨count, hnumbered.next, hnumbered.issued, ?_⟩
      exact (Finset.erase_subset id u.inUse).trans hnumbered.used

theorem ordered_of_step {c : HandleCall w} (h : u.Ordered)
    (hstep : u.Step c u') (hfresh : u.Fresh c u') : u'.Ordered := by
  rcases h with ⟨hlists, count, hnumbered⟩
  exact ⟨hfresh.right, numbered_of_step hlists hnumbered hstep⟩

theorem lists_freeId (h : u.Lists) (hused : u.inUse ⊆ u.issued)
    (hin : id ∈ u.inUse) :
    Lists ⟨u.generator.freeId id, u.issued, u.inUse.erase id⟩ := by
  intro other
  change (u.generator.freeIds ++ [id]).count other =
    if other ∈ u.issued ∧ other ∉ u.inUse.erase id then 1 else 0
  rw [List.count_append, h other, List.count_singleton]
  rcases eq_or_ne id other with rfl | hne
  · rw [if_neg fun hreleased => hreleased.right hin,
      if_pos (beq_self_eq_true _),
      if_pos ⟨hused hin, Finset.notMem_erase id u.inUse⟩]
  · have hiff : other ∈ u.inUse.erase id ↔ other ∈ u.inUse :=
      Finset.mem_erase.trans (and_iff_right hne.symm)
    rw [beq_eq_false_iff_ne.mpr hne, if_neg Bool.false_ne_true, Nat.add_zero]
    simp only [hiff]

theorem lists_next (h : u.Lists) (hfree : u.generator.freeIds = []) :
    Lists ⟨⟨[], u.generator.greatestUsedId + 1⟩,
      insert u.generator.greatestUsedId u.issued,
      insert u.generator.greatestUsedId u.inUse⟩ := by
  intro other
  change 0 = if _ then 1 else 0
  rw [if_neg]
  rintro ⟨hissued, hnot⟩
  rw [Finset.mem_insert, not_or] at hnot
  rcases Finset.mem_insert.mp hissued with heq | hissued
  · exact hnot.left heq
  · exact hnot.right (inUse_of_nothingFree h hfree hissued)

theorem lists_only (h : u.Lists) (hfree : u.generator.freeIds = [id]) :
    Lists ⟨⟨[], u.generator.greatestUsedId⟩, insert id u.issued,
      insert id u.inUse⟩ := by
  intro other
  change 0 = if _ then 1 else 0
  rw [if_neg]
  rintro ⟨hissued, hnot⟩
  rw [Finset.mem_insert, not_or] at hnot
  rcases Finset.mem_insert.mp hissued with heq | hissued
  · exact hnot.left heq
  · have hmem := (mem_freeIds h).mpr ⟨hissued, hnot.right⟩
    rw [hfree, List.mem_singleton] at hmem
    exact hnot.left hmem

theorem fresh_of_not_repeats {c : HandleCall w} (h : u.Ordered)
    (hstep : u.Step c u') (hgood : ¬u.Repeats c) : u.Fresh c u' := by
  rcases h with ⟨hlists, count, hnumbered⟩
  cases c with
  | allocateId =>
      have hcases := not_or.mp fun hbad => hgood ⟨rfl, hbad⟩
      rcases call_allocateId hstep with
        ⟨hfree, rfl, hid⟩ | ⟨id, rest, hfree, rfl, hid⟩
      · refine ⟨fun _ => ?_, lists_next hlists hfree⟩
        rw [hid]
        intro hin
        exact greatestUsedId_notMem hlists hnumbered hfree
          (fun hall => hcases.right ⟨hfree, hall⟩) (hnumbered.used hin)
      · have hrest : rest = [] := by
          have hlength := hcases.left
          rw [hfree, List.length_cons] at hlength
          exact List.eq_nil_of_length_eq_zero (by lia)
        subst hrest
        refine ⟨fun _ => ?_, lists_only hlists hfree⟩
        rw [hid]
        have hmem : id ∈ u.generator.freeIds := by
          rw [hfree]
          exact List.mem_singleton_self id
        exact ((mem_freeIds hlists).mp hmem).right
  | freeId id =>
      rcases call_freeId hstep with ⟨hin, rfl⟩
      refine ⟨fun hother => ?_, lists_freeId hlists hnumbered.used hin⟩
      cases hother

theorem not_fresh_of_repeats {c : HandleCall w} (hstep : u.Step c u')
    (hbad : u.Repeats c) : ¬u.Fresh c u' := by
  rintro ⟨hfresh, hlists⟩
  rcases hbad with ⟨rfl, hmany | ⟨hfree, hall⟩⟩
  · rcases call_allocateId hstep with
      ⟨hfree, -, -⟩ | ⟨id, rest, hfree, rfl, -⟩
    · rw [hfree, List.length_nil] at hmany
      exact absurd hmany (by decide)
    · cases rest with
      | nil =>
          rw [hfree, List.length_singleton] at hmany
          exact absurd hmany (by decide)
      | cons id' rest =>
          have hmem : id ∈ (id :: id' :: rest).dropLast :=
            List.mem_cons_self
          exact ((mem_freeIds hlists).mp hmem).right
            (Finset.mem_insert_self _ _)
  · exact hfresh rfl (hall _)

end Calls

/-!
## Runs of calls
-/

/--
In a run of calls no handle in use is returned, and each released handle is
there to be returned once, exactly if handles are only asked for when at most
one is released, and when there is one that is not in use.
-/
theorem fresh_atEachStep_iff {history : List (HandleCall w)}
    {u : HandleUse w} (hrun : Run Step create history u) :
    AtEachStep Step create Fresh history ↔
      Avoids Step create Repeats history :=
  atEachStep_iff_avoids step_deterministic ordered_create
    (fun h hstep hfresh => ordered_of_step h hstep hfresh)
    (fun h hstep hgood => fresh_of_not_repeats h hstep hgood)
    (fun _ hstep hbad => not_fresh_of_repeats hstep hbad) hrun

theorem run_of_calls {history : List (HandleCall w)} {u : HandleUse w}
    (h : history.foldlM call create = some u) : Run Step create history u :=
  run_of_foldlM h

theorem fresh_oneReleased :
    AtEachStep Step create Fresh
        [.allocateId, .freeId (0 : BitVec 32), .allocateId] ↔
      Avoids Step create Repeats
        [.allocateId, .freeId (0 : BitVec 32), .allocateId] :=
  fresh_atEachStep_iff (u := ⟨⟨[], 1⟩, {0}, {0}⟩) (run_of_calls rfl)

/-- Of two released handles, the first is returned twice. -/
theorem not_fresh_twoReleased :
    ¬AtEachStep Step create Fresh
      [.allocateId, .allocateId, .freeId (0 : BitVec 32), .freeId 1,
        .allocateId, .allocateId] := by
  intro h
  have hrun : Run Step create
      [.allocateId, .allocateId, .freeId (0 : BitVec 32), .freeId 1,
        .allocateId] ⟨⟨[0], 2⟩, {1, 0}, {0}⟩ := run_of_calls rfl
  have hfresh := h _ .allocateId [] _ ⟨⟨[], 2⟩, {1, 0}, {0}⟩ rfl hrun rfl
  exact absurd (hfresh.left rfl) (by decide)

end HandleUse

end Mirror
end Rzu
