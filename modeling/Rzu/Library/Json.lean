import Mathlib.Data.List.Basic

/-!
# JSON texts

Which texts spell a JSON value.  A number is kept as its text, and a string as
the characters that its literal stands for.
-/

namespace Rzu
namespace Library

inductive Json where
  | null
  | boolean (value : Bool)
  | number (text : List Char)
  | string (value : List Char)
  | array (elements : List Json)
  | object (members : List (List Char × Json))

namespace Json

/-!
## Strings
-/

/-- What stands for itself in a literal. -/
def Unescaped (c : Char) : Prop := ' ' ≤ c ∧ c ≠ '"' ∧ c ≠ '\\'

instance (c : Char) : Decidable (Unescaped c) :=
  inferInstanceAs (Decidable (_ ∧ _))

def escaped : Char -> Option Char
  | '"' => some '"'
  | '\\' => some '\\'
  | '/' => some '/'
  | 'b' => some '\x08'
  | 'f' => some '\x0c'
  | 'n' => some '\n'
  | 'r' => some '\r'
  | 't' => some '\t'
  | _ => none

def hexDigit (c : Char) : Option Nat :=
  if c.isDigit then some (c.toNat - 48)
  else if 'a' ≤ c ∧ c ≤ 'f' then some (c.toNat - 87)
  else if 'A' ≤ c ∧ c ≤ 'F' then some (c.toNat - 55)
  else none

/-- The number that hexadecimal digits spell, after a first part of it. -/
def hexNumber : Nat -> List Char -> Option Nat
  | n, [] => some n
  | n, c :: digits => do
      let digit <- hexDigit c
      hexNumber (16 * n + digit) digits

/--
The inside of a literal and the characters it stands for.  An escape of six
characters stands for one character, surrogates are left out.
-/
inductive Characters : List Char -> List Char -> Prop where
  | nil : Characters [] []
  | plain {c : Char} {text value : List Char} (h : Unescaped c)
      (rest : Characters text value) : Characters (c :: text) (c :: value)
  | escape {c d : Char} {text value : List Char} (h : escaped c = some d)
      (rest : Characters text value) :
      Characters ('\\' :: c :: text) (d :: value)
  | unicode {digits : List Char} {code : Nat} {text value : List Char}
      (hlength : digits.length = 4) (h : hexNumber 0 digits = some code)
      (hvalid : code.isValidChar) (rest : Characters text value) :
      Characters ('\\' :: 'u' :: digits ++ text) (Char.ofNat code :: value)

def Literal (text value : List Char) : Prop :=
  exists inside, text = '"' :: inside ++ ['"'] ∧ Characters inside value

theorem literal_of_unescaped {name : List Char}
    (h : forall c, c ∈ name -> Unescaped c) :
    Literal ('"' :: name ++ ['"']) name := by
  refine ⟨name, rfl, ?_⟩
  induction name with
  | nil => exact Characters.nil
  | cons c name ih =>
      apply Characters.plain (h c List.mem_cons_self)
      apply ih
      intro d hd
      exact h d (List.mem_cons_of_mem c hd)

/-!
## Numbers
-/

def Digits (text : List Char) : Prop :=
  text ≠ [] ∧ forall c, c ∈ text -> c.isDigit = true

/-- No zero comes before another digit. -/
def Whole (text : List Char) : Prop :=
  Digits text ∧ (text.head? = some '0' -> text = ['0'])

def Fraction (text : List Char) : Prop :=
  text = [] ∨ exists digits, text = '.' :: digits ∧ Digits digits

def Exponent (text : List Char) : Prop :=
  text = [] ∨ exists sign digits, text = 'e' :: sign ++ digits ∧
    (sign = [] ∨ sign = ['+'] ∨ sign = ['-']) ∧ Digits digits

/-- Numbers whose exponent, if they have one, is written with a small `e`. -/
def Number (text : List Char) : Prop :=
  exists sign whole fraction exponent,
    text = sign ++ whole ++ fraction ++ exponent ∧
      (sign = [] ∨ sign = ['-']) ∧ Whole whole ∧ Fraction fraction ∧
        Exponent exponent

theorem digits_toDigits (n : Nat) : Digits (Nat.toDigits 10 n) := by
  constructor
  · exact List.ne_nil_of_length_pos Nat.length_toDigits_pos
  · intro c hc
    exact Nat.isDigit_of_mem_toDigits (by decide) (by decide) hc

theorem head?_toDigits {n : Nat} (h : 0 < n) :
    (Nat.toDigits 10 n).head? ≠ some '0' := by
  induction n using Nat.strongRecOn with
  | ind n ih =>
      by_cases hsmall : n < 10
      · have hall : forall d : Fin 10, 0 < d.val ->
            [d.val.digitChar].head? ≠ some '0' := by
          decide
        rw [Nat.toDigits_of_lt_base hsmall]
        exact hall ⟨n, hsmall⟩ h
      · have hfront := ih (n / 10) (by lia) (by lia)
        rw [Nat.toDigits_of_base_le (by decide) (Nat.not_lt.mp hsmall),
          List.head?_append]
        rcases List.exists_cons_of_ne_nil (Nat.toDigits_ne_nil (n := n / 10)
          (b := 10)) with ⟨c, rest, hcons⟩
        rw [hcons] at hfront ⊢
        exact hfront

theorem whole_toDigits (n : Nat) : Whole (Nat.toDigits 10 n) := by
  refine ⟨digits_toDigits n, ?_⟩
  intro hzero
  by_contra hne
  have hpos : 0 < n := by
    by_contra hnot
    rw [Nat.eq_zero_of_not_pos hnot] at hne
    exact hne rfl
  exact head?_toDigits hpos hzero

theorem number_toDigits (n : Nat) : Number (Nat.toDigits 10 n) := by
  refine ⟨[], Nat.toDigits 10 n, [], [], ?_, Or.inl rfl, whole_toDigits n,
    Or.inl rfl, Or.inl rfl⟩
  rw [List.append_nil, List.append_nil]
  rfl

theorem Number.neg {whole : List Char} (h : Whole whole) :
    Number ('-' :: whole) := by
  refine ⟨['-'], whole, [], [], ?_, Or.inr rfl, h, Or.inl rfl, Or.inl rfl⟩
  rw [List.append_nil, List.append_nil]
  rfl

/-!
## Values
-/

def Blank (text : List Char) : Prop :=
  forall c, c ∈ text -> c = ' ' ∨ c = '\t' ∨ c = '\n' ∨ c = '\r'

/-- At least one item, with commas between the items. -/
inductive Separated {item : Type} (spells : item -> List Char -> Prop) :
    List item -> List Char -> Prop where
  | single {x : item} {before text after : List Char}
      (hbefore : Blank before) (h : spells x text) (hafter : Blank after) :
      Separated spells [x] (before ++ text ++ after)
  | snoc {xs : List item} {x : item} {front before text after : List Char}
      (hfront : Separated spells xs front) (hbefore : Blank before)
      (h : spells x text) (hafter : Blank after) :
      Separated spells (xs ++ [x]) (front ++ ',' :: before ++ text ++ after)

mutual

inductive Spells : Json -> List Char -> Prop where
  | null : Spells null "null".toList
  | true : Spells (boolean true) "true".toList
  | false : Spells (boolean false) "false".toList
  | number {text : List Char} (h : Number text) : Spells (number text) text
  | string {value text : List Char} (h : Literal text value) :
      Spells (string value) text
  | emptyArray {text : List Char} (h : Blank text) :
      Spells (array []) ('[' :: text ++ [']'])
  | array {elements : List Json} {text : List Char}
      (h : Separated Spells elements text) :
      Spells (array elements) ('[' :: text ++ [']'])
  | emptyObject {text : List Char} (h : Blank text) :
      Spells (object []) ('{' :: text ++ ['}'])
  | object {members : List (List Char × Json)} {text : List Char}
      (h : Separated SpellsMember members text) :
      Spells (object members) ('{' :: text ++ ['}'])

inductive SpellsMember : List Char × Json -> List Char -> Prop where
  | member {name : List Char} {value : Json}
      {nameText before after text : List Char} (hname : Literal nameText name)
      (hbefore : Blank before) (hafter : Blank after)
      (h : Spells value text) :
      SpellsMember (name, value) (nameText ++ before ++ ':' :: after ++ text)

end

def Document (value : Json) (text : List Char) : Prop :=
  exists before inside after, text = before ++ inside ++ after ∧
    Blank before ∧ Spells value inside ∧ Blank after

/-!
Whatever spells a value, the numbers in it are numbers.
-/

mutual

def HasNumbers : Json -> Prop
  | null => True
  | boolean _ => True
  | number text => Number text
  | string _ => True
  | array elements => HaveNumbers elements
  | object members => MembersHaveNumbers members

def HaveNumbers : List Json -> Prop
  | [] => True
  | value :: elements => HasNumbers value ∧ HaveNumbers elements

def MembersHaveNumbers : List (List Char × Json) -> Prop
  | [] => True
  | (_, value) :: members => HasNumbers value ∧ MembersHaveNumbers members

end

theorem haveNumbers_iff (elements : List Json) :
    HaveNumbers elements ↔
      forall value, value ∈ elements -> HasNumbers value := by
  induction elements with
  | nil => simp [HaveNumbers]
  | cons value elements ih => simp [HaveNumbers, ih]

theorem membersHaveNumbers_iff (members : List (List Char × Json)) :
    MembersHaveNumbers members ↔
      forall member, member ∈ members -> HasNumbers member.2 := by
  induction members with
  | nil => simp [MembersHaveNumbers]
  | cons member members ih => simp [MembersHaveNumbers, ih]

theorem forall_mem_snoc {item : Type} {holds : item -> Prop}
    {xs : List item} {x : item} (hxs : forall y, y ∈ xs -> holds y)
    (hx : holds x) : forall y, y ∈ xs ++ [x] -> holds y := by
  intro y hy
  rcases List.mem_append.mp hy with hfront | hlast
  · exact hxs y hfront
  · rw [List.mem_singleton.mp hlast]
    exact hx

theorem forall_mem_single {item : Type} {holds : item -> Prop} {x : item}
    (hx : holds x) : forall y, y ∈ [x] -> holds y := by
  intro y hy
  rw [List.mem_singleton.mp hy]
  exact hx

/--
The cases are those of the values and of members, and then two each for lists
of elements and lists of members.
-/
theorem Spells.hasNumbers {value : Json} {text : List Char}
    (h : Spells value text) : HasNumbers value := by
  refine @Spells.rec (fun value _ _ => HasNumbers value)
    (fun member _ _ => HasNumbers member.2)
    (fun elements _ _ =>
      forall value, value ∈ elements -> HasNumbers value)
    (fun members _ _ =>
      forall member, member ∈ members -> HasNumbers member.2)
    trivial trivial trivial (fun hnumber => hnumber) (fun _ => trivial)
    (fun _ => trivial) (fun _ hall => (haveNumbers_iff _).mpr hall)
    (fun _ => trivial) (fun _ hall => (membersHaveNumbers_iff _).mpr hall)
    (fun _ _ _ _ hvalue => hvalue) ?_ ?_ ?_ ?_ value text h
  · intro value before text after _ _ _ hvalue
    exact forall_mem_single hvalue
  · intro elements value front before text after _ _ _ _ hfront hvalue
    exact forall_mem_snoc hfront hvalue
  · intro member before text after _ _ _ hvalue
    exact forall_mem_single hvalue
  · intro members member front before text after _ _ _ _ hfront hvalue
    exact forall_mem_snoc hfront hvalue

end Json

end Library
end Rzu
