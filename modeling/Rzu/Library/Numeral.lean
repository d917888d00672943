import Mathlib.Data.List.TakeWhile
import Mathlib.Data.Nat.Digits.Lemmas
import Rzu.Library.FixedWidth

/-!
# Numbers in C text

What the C library makes of the decimal number at the front of a text, and how
it prints one.
-/

namespace Rzu
namespace Library

theorem cInt_positive : 0 < 4 := by decide

/-- The type `int`. -/
def cInt : IntType where
  size := 4
  signed := true
  positive := cInt_positive

/-- The type `unsigned int`. -/
def cUnsigned : IntType where
  size := 4
  signed := false
  positive := cInt_positive

namespace Numeral

def isSpace (c : UInt8) : Bool := c == 32 || (9 ≤ c && c ≤ 13)

def isDigit (c : UInt8) : Bool := 48 ≤ c && c ≤ 57

def magnitude (digits : List UInt8) : Nat :=
  digits.foldl (fun value c => 10 * value + (c.toNat - 48)) 0

def signOf : List UInt8 -> Bool × List UInt8
  | 45 :: rest => (true, rest)
  | 43 :: rest => (false, rest)
  | chars => (false, chars)

/-- `strtol` in base ten, to a `long` of 64 bits. -/
def strtol (text : List UInt8) : Int :=
  let signed := signOf (text.dropWhile isSpace)
  let value := magnitude (signed.2.takeWhile isDigit)
  if signed.1 then max (-2 ^ 63) (-(value : Int))
  else min (2 ^ 63 - 1) (value : Int)

/-- `strtoul` in base ten: a number with a minus sign is taken modulo. -/
def strtoul (text : List UInt8) : Int :=
  let signed := signOf (text.dropWhile isSpace)
  let value := magnitude (signed.2.takeWhile isDigit)
  if 2 ^ 64 ≤ value then 2 ^ 64 - 1
  else if signed.1 then -(value : Int) % 2 ^ 64
  else value

/-- `atoi`: what is out of range is cut off. -/
def atoi (text : List UInt8) : Int := cInt.cast (strtol text)

/-- `strtoul` stored in 32 bits. -/
def strtouint (text : List UInt8) : Int := cUnsigned.cast (strtoul text)

/-- `std::from_chars` into an `int`: no blanks, no plus sign. -/
def fromChars (text : List UInt8) : Option Int :=
  let negative := text.head? == some 45
  let digits := (if negative then text.tail else text).takeWhile isDigit
  let value : Int := if negative then -(magnitude digits : Int)
    else magnitude digits
  if digits = [] then none
  else if cInt.Fits value then some value
  else none

/-!
## Printing
-/

def digitChar (d : Nat) : UInt8 := UInt8.ofNat (48 + d)

/-- The format `%u`. -/
def printUnsigned (n : Nat) : List UInt8 :=
  if n = 0 then [digitChar 0] else ((Nat.digits 10 n).map digitChar).reverse

/-- The format `%d`. -/
def print (n : Int) : List UInt8 :=
  if n < 0 then 45 :: printUnsigned n.natAbs else printUnsigned n.natAbs

theorem isDigit_digitChar {d : Nat} (h : d < 10) :
    isDigit (digitChar d) = true := by
  have hall : forall d, d < 10 -> isDigit (digitChar d) = true := by decide
  exact hall d h

theorem toNat_digitChar {d : Nat} (h : d < 10) :
    (digitChar d).toNat - 48 = d := by
  have hall : forall d, d < 10 -> (digitChar d).toNat - 48 = d := by decide
  exact hall d h

theorem isDigit_of_mem_printUnsigned {n : Nat} {c : UInt8}
    (h : c ∈ printUnsigned n) : isDigit c = true := by
  rw [printUnsigned] at h
  split at h
  · rw [List.mem_singleton.mp h]
    rfl
  · rcases List.mem_map.mp (List.mem_reverse.mp h) with ⟨d, hd, heq⟩
    rw [← heq]
    exact isDigit_digitChar (Nat.digits_lt_base (by decide) hd)

theorem printUnsigned_ne_nil (n : Nat) : printUnsigned n ≠ [] := by
  rw [printUnsigned]
  split
  · exact List.cons_ne_nil _ _
  · rename_i hn
    simpa using Nat.digits_ne_nil_iff_ne_zero.mpr hn

theorem magnitude_digits (n : Nat) :
    magnitude ((Nat.digits 10 n).map digitChar).reverse = n := by
  have hfold : forall digits : List Nat, (forall d, d ∈ digits -> d < 10) ->
      magnitude (digits.map digitChar).reverse = Nat.ofDigits 10 digits := by
    intro digits hdigits
    induction digits with
    | nil => rfl
    | cons d digits ih =>
        have hd := hdigits d List.mem_cons_self
        have hrest := ih fun d' hd' => hdigits d' (List.mem_cons_of_mem _ hd')
        rw [magnitude] at hrest
        rw [magnitude, List.map_cons, List.reverse_cons, List.foldl_append,
          hrest, List.foldl_cons, List.foldl_nil, toNat_digitChar hd,
          Nat.ofDigits_cons]
        exact Nat.add_comm _ _
  rw [hfold _ fun d hd => Nat.digits_lt_base (by decide) hd,
    Nat.ofDigits_digits]

theorem magnitude_printUnsigned (n : Nat) :
    magnitude (printUnsigned n) = n := by
  rw [printUnsigned]
  split
  · rename_i hn
    rw [hn]
    rfl
  · exact magnitude_digits n

theorem takeWhile_printUnsigned (n : Nat) :
    (printUnsigned n).takeWhile isDigit = printUnsigned n :=
  List.takeWhile_eq_self_iff.mpr fun _ h => isDigit_of_mem_printUnsigned h

theorem not_isSpace_of_isDigit {c : UInt8} (h : isDigit c = true) :
    isSpace c = false := by
  simp only [isDigit, isSpace, Bool.and_eq_true, decide_eq_true_eq,
    Bool.or_eq_false_iff, beq_eq_false_iff_ne, Bool.and_eq_false_iff,
    decide_eq_false_iff_not] at h ⊢
  constructor
  · intro heq
    rw [heq] at h
    exact absurd h.left (by decide)
  · right
    intro hle
    exact absurd (UInt8.le_trans h.left hle) (by decide)

theorem signOf_digits {digits : List UInt8}
    (h : forall c, c ∈ digits -> isDigit c = true) :
    signOf (digits.dropWhile isSpace) = (false, digits) := by
  cases digits with
  | nil => rfl
  | cons c rest =>
      have hc := h c List.mem_cons_self
      rw [List.dropWhile_cons_of_neg
        (by rw [not_isSpace_of_isDigit hc]; decide)]
      unfold signOf
      split
      · rename_i heq
        cases heq
        exact absurd hc (by decide)
      · rename_i heq
        cases heq
        exact absurd hc (by decide)
      · rfl

theorem signOf_minus (rest : List UInt8) :
    signOf ((45 :: rest).dropWhile isSpace) = (true, rest) := by
  rw [List.dropWhile_cons_of_neg (by decide)]
  rfl

theorem strtol_print {n : Int} (h : cInt.Fits n) : strtol (print n) = n := by
  have hbounds : -2147483648 ≤ n ∧ n < 2147483648 := by
    simp only [IntType.Fits, cInt, IntType.modulus] at h
    norm_num at h
    lia
  rw [strtol, print]
  split
  · rename_i hneg
    simp only [signOf_minus, takeWhile_printUnsigned, magnitude_printUnsigned,
      if_true]
    omega
  · rename_i hneg
    simp only [signOf_digits fun _ h => isDigit_of_mem_printUnsigned h,
      takeWhile_printUnsigned, magnitude_printUnsigned, Bool.false_eq_true,
      if_false]
    omega

theorem atoi_print {n : Int} (h : cInt.Fits n) : atoi (print n) = n := by
  rw [atoi, strtol_print h, IntType.cast_eq h]

theorem strtouint_printUnsigned {n : Nat} (h : cUnsigned.Fits n) :
    strtouint (printUnsigned n) = n := by
  have hbound : n < 4294967296 := by
    simp only [IntType.Fits, cUnsigned, IntType.modulus] at h
    norm_num at h
    lia
  have hvalue : strtoul (printUnsigned n) = n := by
    rw [strtoul]
    simp only [signOf_digits fun _ h => isDigit_of_mem_printUnsigned h,
      takeWhile_printUnsigned, magnitude_printUnsigned]
    rw [if_neg (by lia)]
    rfl
  rw [strtouint, hvalue, IntType.cast_eq h]

theorem fits_atoi (text : List UInt8) : cInt.Fits (atoi text) :=
  IntType.fits_cast cInt _

theorem fits_strtouint (text : List UInt8) :
    cUnsigned.Fits (strtouint text) :=
  IntType.fits_cast cUnsigned _

theorem strtouint_toNat {n : Int} (h : cUnsigned.Fits n) :
    strtouint (printUnsigned n.toNat) = n := by
  have hnonneg : 0 ≤ n := h.left
  have hcast : (n.toNat : Int) = n := Int.toNat_of_nonneg hnonneg
  rw [← hcast] at h
  rw [strtouint_printUnsigned h, hcast]

theorem notMem_printUnsigned {c : UInt8} (h : isDigit c = false) (n : Nat) :
    c ∉ printUnsigned n := by
  intro hmem
  rw [isDigit_of_mem_printUnsigned hmem] at h
  cases h

theorem notMem_print {c : UInt8} (h : isDigit c = false) (hc : c ≠ 45)
    (n : Int) : c ∉ print n := by
  rw [print]
  split
  · rw [List.mem_cons, not_or]
    exact ⟨hc, notMem_printUnsigned h _⟩
  · exact notMem_printUnsigned h _

end Numeral

end Library
end Rzu
