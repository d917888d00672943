import Mathlib.Algebra.Ring.Nat
import Mathlib.Data.List.DropRight
import Mathlib.Data.Nat.Log
import Rzu.Library.Json

/-!
# Decimal text of binary floating point numbers

Numbers in an interchange format by their bits, and their text with six
significant digits, as the general format of C prints them.
-/

namespace Rzu
namespace Library

open Json

structure FloatFormat where
  exponentBits : Nat
  fractionBits : Nat

namespace FloatFormat

def single : FloatFormat := ⟨8, 23⟩

def double : FloatFormat := ⟨11, 52⟩

section Parts

variable (F : FloatFormat) (bits : Nat)

def fraction : Nat := bits % 2 ^ F.fractionBits

def exponent : Nat := bits / 2 ^ F.fractionBits % 2 ^ F.exponentBits

def negative : Bool :=
  bits / 2 ^ (F.fractionBits + F.exponentBits) % 2 == 1

/-- Neither an infinity nor a NaN. -/
def IsFinite : Prop := F.exponent bits ≠ 2 ^ F.exponentBits - 1

instance : Decidable (F.IsFinite bits) := inferInstanceAs (Decidable (_ ≠ _))

/-- With the leading bit that normal numbers do not store. -/
def significand : Nat :=
  if F.exponent bits = 0 then F.fraction bits
  else 2 ^ F.fractionBits + F.fraction bits

/-!
The absolute value is the quotient of these two.
-/

def numerator : Nat := F.significand bits * 2 ^ Nat.max (F.exponent bits) 1

def denominator : Nat :=
  2 ^ (2 ^ (F.exponentBits - 1) - 1 + F.fractionBits)

end Parts

end FloatFormat

/-- To the nearest, and to the even one of two. -/
def roundedQuotient (m n : Nat) : Nat :=
  if 2 * (m % n) > n ∨ (2 * (m % n) = n ∧ m / n % 2 = 1) then m / n + 1
  else m / n

/-- The power of ten that a positive quotient begins with. -/
def decimalExponent (m n : Nat) : Int :=
  if n ≤ m then Nat.log 10 (m / n)
  else -(Nat.clog 10 ((n + m - 1) / m) : Int)

/-- The six digits that a quotient begins with, and their first power of ten. -/
def significantDigits (m n : Nat) : Nat × Int :=
  if m = 0 then (0, 0)
  else
    let power := decimalExponent m n
    let digits :=
      roundedQuotient (m * 10 ^ (5 - power).toNat) (n * 10 ^ (power - 5).toNat)
    if digits = 10 ^ 6 then (10 ^ 5, power + 1) else (digits, power)

/-- Digits behind the point, without zeros at the end. -/
def fractionText (digits scale : Nat) : List Char :=
  let text :=
    ((Nat.toDigits 10 digits).leftpad scale '0').rdropWhile (· = '0')
  if text = [] then [] else '.' :: text

def fixedText (digits scale : Nat) : List Char :=
  Nat.toDigits 10 (digits / 10 ^ scale) ++
    fractionText (digits % 10 ^ scale) scale

def exponentText (power : Int) : List Char :=
  'e' :: [if power < 0 then '-' else '+'] ++
    (Nat.toDigits 10 power.natAbs).leftpad 2 '0'

/-- `%g` for a quotient. -/
def generalText (m n : Nat) : List Char :=
  let (digits, power) := significantDigits m n
  if -4 ≤ power ∧ power < 6 then fixedText digits (5 - power).toNat
  else fixedText digits 5 ++ exponentText power

/-- `%g` for the number that the bits stand for. -/
def FloatFormat.text (F : FloatFormat) (bits : Nat) : List Char :=
  let sign := if F.negative bits then ['-'] else []
  if F.IsFinite bits then
    sign ++ generalText (F.numerator bits) F.denominator
  else if F.fraction bits = 0 then sign ++ "inf".toList
  else sign ++ "nan".toList

/-!
## Which texts are numbers
-/

theorem digits_leftpad {text : List Char} (n : Nat) (h : Digits text) :
    Digits (text.leftpad n '0') := by
  constructor
  · intro hnil
    exact h.left (List.append_eq_nil_iff.mp hnil).right
  · intro c hc
    rcases List.mem_append.mp hc with hzero | htext
    · rw [List.eq_of_mem_replicate hzero]
      rfl
    · exact h.right c htext

theorem fraction_fractionText (digits scale : Nat) :
    Fraction (fractionText digits scale) := by
  unfold fractionText
  dsimp only
  split
  · exact Or.inl rfl
  · rename_i hne
    refine Or.inr ⟨_, rfl, hne, ?_⟩
    intro c hc
    exact (digits_leftpad scale (digits_toDigits digits)).right c
      ((List.rdropWhile_prefix _ _).subset hc)

theorem exponent_exponentText (power : Int) :
    Exponent (exponentText power) := by
  refine Or.inr ⟨_, _, rfl, ?_, digits_leftpad 2 (digits_toDigits _)⟩
  split
  · exact Or.inr (Or.inr rfl)
  · exact Or.inr (Or.inl rfl)

theorem number_generalText {sign : List Char} (m n : Nat)
    (hsign : sign = [] ∨ sign = ['-']) :
    Number (sign ++ generalText m n) := by
  unfold generalText
  dsimp only
  generalize significantDigits m n = significant
  split
  · refine ⟨sign, _, _, [], ?_, hsign,
      whole_toDigits (significant.1 / 10 ^ (5 - significant.2).toNat),
      fraction_fractionText (significant.1 % 10 ^ (5 - significant.2).toNat)
        (5 - significant.2).toNat, Or.inl rfl⟩
    rw [fixedText, List.append_nil, List.append_assoc]
  · refine ⟨sign, _, _, _, ?_, hsign,
      whole_toDigits (significant.1 / 10 ^ 5),
      fraction_fractionText (significant.1 % 10 ^ 5) 5,
      exponent_exponentText significant.2⟩
    rw [fixedText, List.append_assoc, List.append_assoc, List.append_assoc]

theorem head_of_number {text : List Char} (h : Number text) :
    text.head?.any (fun c => c = '-' || c.isDigit) = true := by
  rcases h with ⟨sign, whole, fraction, exponent, heq, hsign, hwhole, _⟩
  rw [heq]
  rcases hsign with hsign | hsign
  · rcases List.exists_cons_of_ne_nil hwhole.left.left with ⟨c, rest, hcons⟩
    have hdigit := hwhole.left.right c (by
      rw [hcons]
      exact List.mem_cons_self)
    rw [hsign, hcons]
    change (decide (c = '-') || c.isDigit) = true
    rw [hdigit, Bool.or_true]
  · rw [hsign]
    rfl

theorem head_of_negative {text : List Char} (h : Number ('-' :: text)) :
    text.head?.any (fun c => c.isDigit) = true := by
  rcases h with ⟨sign, whole, fraction, exponent, heq, hsign, hwhole, _⟩
  rcases List.exists_cons_of_ne_nil hwhole.left.left with ⟨c, rest, hcons⟩
  have hdigit := hwhole.left.right c (by
    rw [hcons]
    exact List.mem_cons_self)
  rcases hsign with hsign | hsign
  · rw [hsign, hcons] at heq
    injection heq with hfirst _
    rw [← hfirst] at hdigit
    cases hdigit
  · rw [hsign, hcons] at heq
    injection heq with _ hrest
    rw [hrest]
    exact hdigit

theorem not_number_of_head {sign : List Char} {c : Char} {text : List Char}
    (hsign : sign = [] ∨ sign = ['-']) (hminus : c ≠ '-')
    (hc : c.isDigit = false) : ¬Number (sign ++ c :: text) := by
  intro h
  rcases hsign with hsign | hsign
  · rw [hsign] at h
    have hhead := head_of_number h
    change (decide (c = '-') || c.isDigit) = true at hhead
    rw [hc, Bool.or_false] at hhead
    exact hminus (of_decide_eq_true hhead)
  · rw [hsign] at h
    have hhead := head_of_negative h
    change c.isDigit = true at hhead
    rw [hc] at hhead
    cases hhead

theorem number_text_iff (F : FloatFormat) (bits : Nat) :
    Number (F.text bits) ↔ F.IsFinite bits := by
  have hsign : (if F.negative bits then ['-'] else []) = [] ∨
      (if F.negative bits then ['-'] else []) = ['-'] := by
    split
    · exact Or.inr rfl
    · exact Or.inl rfl
  unfold FloatFormat.text
  dsimp only
  generalize (if F.negative bits then ['-'] else []) = sign at hsign
  constructor
  · intro h
    by_contra hinfinite
    rw [if_neg hinfinite] at h
    split at h
    · exact not_number_of_head hsign (by decide) (by decide) h
    · exact not_number_of_head hsign (by decide) (by decide) h
  · intro h
    rw [if_pos h]
    exact number_generalText _ _ hsign

end Library
end Rzu
