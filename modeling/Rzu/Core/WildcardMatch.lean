import Mathlib.Logic.Relation
import Rzu.Library.Glob

/-!
# Matching of wildcards

`Utils::stringWildcardMatch` walks through a text and a pattern with one
pointer each, and remembers for the last star where to begin again.
-/

namespace Rzu
namespace Core

open Library

/-- What a pointer to characters is given: they end at the first zero. -/
structure CString where
  chars : List UInt8
  terminated : 0 ∉ chars

/-- A character or the terminator, none behind the terminator. -/
def CString.read (s : CString) (i : Nat) : Option UInt8 :=
  (s.chars ++ [0])[i]?

/-- The positions that are saved at a star, both at once. -/
structure Bookmark where
  pTameBookmark : Nat
  pWildBookmark : Nat

structure Walk where
  pTameText : Nat
  pWildText : Nat
  bookmark : Option Bookmark

/-- `'*'` -/
def star : UInt8 := 0x2A

/-- `'?'` -/
def questionMark : UInt8 := 0x3F

namespace CString

theorem read_of_lt {s : CString} {i : Nat} (h : i < s.chars.length) :
    exists c, s.read i = some c ∧ c ≠ 0 ∧
      s.chars.drop i = c :: s.chars.drop (i + 1) := by
  refine ⟨s.chars[i], ?_, ?_, List.drop_eq_getElem_cons h⟩
  · rw [read, List.getElem?_append_left h, List.getElem?_eq_getElem h]
  · intro hzero
    apply s.terminated
    rw [← hzero]
    exact List.getElem_mem h

theorem read_length (s : CString) : s.read s.chars.length = some 0 := by
  rw [read, List.getElem?_append_right (Nat.le_refl _), Nat.sub_self]
  rfl

theorem read_of_gt {s : CString} {i : Nat} (h : s.chars.length < i) :
    s.read i = none := by
  rw [read, List.getElem?_eq_none]
  rw [List.length_append, List.length_singleton]
  exact h

theorem lt_of_read {s : CString} {i : Nat} {c : UInt8}
    (h : s.read i = some c) (hc : c ≠ 0) : i < s.chars.length := by
  by_contra hle
  rcases Nat.lt_or_eq_of_le (Nat.not_lt.mp hle) with hlt | heq
  · rw [read_of_gt hlt] at h
    cases h
  · rw [← heq, read_length] at h
    injection h with hzero
    exact hc hzero.symm

end CString

section Match

variable (text wild : CString)

/-- `while(*pWildText == '*') pWildText++;` -/
def skipStars (pWildText : Nat) : Option Nat :=
  match _h : wild.read pWildText with
  | none => none
  | some c => if _hc : c = star then skipStars (pWildText + 1)
      else some pWildText
termination_by wild.chars.length - pWildText
decreasing_by
  have hlt := CString.lt_of_read _h (by rw [_hc]; decide)
  lia

/--
`while(*pTameText != *pWildText)`: the position of the next such character, or
`some none` where the text ends before.
-/
def fastForward (c : UInt8) (pTameText : Nat) : Option (Option Nat) :=
  match text.read pTameText with
  | none => none
  | some t =>
      if t = c then some (some pTameText)
      else
        match _h : text.read (pTameText + 1) with
        | none => none
        | some t' =>
            if _ht : t' = 0 then some none else fastForward c (pTameText + 1)
termination_by text.chars.length - pTameText
decreasing_by
  have hlt := CString.lt_of_read _h _ht
  lia

/-- Fast-forward to the next possible match of what is behind a star. -/
def nextPossible (next : UInt8) (pTameText : Nat) : Option (Option Nat) :=
  if next ≠ questionMark then fastForward text next pTameText
  else some (some pTameText)

/-- The end of a pass: both pointers go on, and the text may have ended. -/
def advance (s : Walk) : Option (Walk ⊕ Bool) := do
  let pTameText := s.pTameText + 1
  let pWildText := s.pWildText + 1
  let t <- text.read pTameText
  if t = 0 then
    let pWildText <- skipStars wild pWildText
    let w <- wild.read pWildText
    pure (Sum.inr (w == 0))
  else
    pure (Sum.inl
      { s with
        pTameText := pTameText
        pWildText := pWildText })

/--
One pass of the loop: the pointers of the next one, or what is returned.  None
when a string is read behind its terminator.
-/
def step (s : Walk) : Option (Walk ⊕ Bool) := do
  let w <- wild.read s.pWildText
  if w = star then
    let pWildText <- skipStars wild (s.pWildText + 1)
    let next <- wild.read pWildText
    if next = 0 then pure (Sum.inr true)
    else
      match <- nextPossible text next s.pTameText with
      | none => pure (Sum.inr false)
      | some pTameText =>
          advance text wild
            { pTameText := pTameText
              pWildText := pWildText
              bookmark := some ⟨pTameText, pWildText⟩ }
  else
    let t <- text.read s.pTameText
    if t ≠ w ∧ w ≠ questionMark then
      match s.bookmark with
      | none => pure (Sum.inr false)
      | some bookmark =>
          if s.pWildText ≠ bookmark.pWildBookmark then
            let first <- wild.read bookmark.pWildBookmark
            if t ≠ first then
              let pTameBookmark := bookmark.pTameBookmark + 1
              pure (Sum.inl
                { pTameText := pTameBookmark
                  pWildText := bookmark.pWildBookmark
                  bookmark :=
                    some ⟨pTameBookmark, bookmark.pWildBookmark⟩ })
            else if t ≠ 0 then
              pure (Sum.inl
                { s with
                  pTameText := s.pTameText + 1
                  pWildText := bookmark.pWildBookmark + 1 })
            else pure (Sum.inr false)
          else if t ≠ 0 then
            pure (Sum.inl { s with pTameText := s.pTameText + 1 })
          else pure (Sum.inr false)
    else advance text wild s

inductive Outcome where
  | returned (result : Bool)
  | overrun
deriving DecidableEq

/-- The loop, with a bound for its passes. -/
def walk : Nat -> Walk -> Option Outcome
  | 0, _ => none
  | fuel + 1, s =>
      match step text wild s with
      | none => some Outcome.overrun
      | some (Sum.inr result) => some (Outcome.returned result)
      | some (Sum.inl s') => walk fuel s'

/-- Both pointers at the beginning, nothing saved. -/
def Walk.start : Walk := ⟨0, 0, none⟩

def stringWildcardMatch (fuel : Nat) : Option Outcome :=
  walk text wild fuel Walk.start

end Match

end Core
end Rzu
