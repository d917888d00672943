import Mathlib.Data.List.Basic

/-!
# Byte transforms and stream ciphers

A byte transform rewrites a byte string from left to right while carrying a
state.  A stream cipher is the transform that combines each byte with the next
byte of a key stream; applying it twice from the same state is the identity.
-/

namespace Rzu
namespace Library

structure ByteTransform (state : Type _) where
  apply : state -> UInt8 -> UInt8 × state

namespace ByteTransform

variable {state : Type _} (T : ByteTransform state)

/-- Transform a byte string, returning the state reached after it. -/
def run : state -> List UInt8 -> List UInt8 × state
  | s, [] => ([], s)
  | s, b :: rest =>
      let first := T.apply s b
      let later := run first.2 rest
      (first.1 :: later.1, later.2)

theorem run_cons (s : state) (b : UInt8) (rest : List UInt8) :
    T.run s (b :: rest) =
      ((T.apply s b).1 :: (T.run (T.apply s b).2 rest).1,
        (T.run (T.apply s b).2 rest).2) := rfl

theorem run_append (s : state) (xs ys : List UInt8) :
    T.run s (xs ++ ys) =
      ((T.run s xs).1 ++ (T.run (T.run s xs).2 ys).1,
        (T.run (T.run s xs).2 ys).2) := by
  induction xs generalizing s with
  | nil => rfl
  | cons x rest ih =>
      rw [List.cons_append, run_cons, ih, run_cons]
      rfl

@[simp] theorem run_length (s : state) (xs : List UInt8) :
    (T.run s xs).1.length = xs.length := by
  induction xs generalizing s with
  | nil => rfl
  | cons x rest ih =>
      rw [run_cons, List.length_cons, ih, List.length_cons]

def identity : ByteTransform Unit where
  apply _ b := (b, ())

@[simp] theorem run_identity (s : Unit) (xs : List UInt8) :
    identity.run s xs = (xs, ()) := by
  induction xs with
  | nil => rfl
  | cons x rest ih =>
      rw [run_cons]
      change (x :: (identity.run () rest).1, (identity.run () rest).2) = _
      rw [ih]

end ByteTransform

structure StreamCipher (state : Type _) where
  next : state -> UInt8 × state

namespace StreamCipher

variable {state : Type _} (C : StreamCipher state)

def transform : ByteTransform state where
  apply s b := (b ^^^ (C.next s).1, (C.next s).2)

def encode (s : state) (xs : List UInt8) : List UInt8 × state :=
  C.transform.run s xs

/-- The state after some bytes of key stream. -/
def advance : state -> Nat -> state
  | s, 0 => s
  | s, n + 1 => advance (C.next s).2 n

def keyByte (s : state) (n : Nat) : UInt8 :=
  (C.next (C.advance s n)).1

theorem encode_cons (s : state) (b : UInt8) (rest : List UInt8) :
    C.encode s (b :: rest) =
      ((b ^^^ (C.next s).1) :: (C.encode (C.next s).2 rest).1,
        (C.encode (C.next s).2 rest).2) := rfl

theorem encode_append (s : state) (xs ys : List UInt8) :
    C.encode s (xs ++ ys) =
      ((C.encode s xs).1 ++ (C.encode (C.encode s xs).2 ys).1,
        (C.encode (C.encode s xs).2 ys).2) :=
  C.transform.run_append s xs ys

@[simp] theorem encode_length (s : state) (xs : List UInt8) :
    (C.encode s xs).1.length = xs.length :=
  C.transform.run_length s xs

theorem encode_state (s : state) (xs : List UInt8) :
    (C.encode s xs).2 = C.advance s xs.length := by
  induction xs generalizing s with
  | nil => rfl
  | cons x rest ih =>
      rw [encode_cons, List.length_cons, advance, ih]

theorem advance_add (s : state) (m n : Nat) :
    C.advance s (m + n) = C.advance (C.advance s m) n := by
  induction m generalizing s with
  | zero => rw [Nat.zero_add, advance]
  | succ m ih =>
      rw [Nat.succ_add, advance, ih, advance]

theorem keyByte_advance (s : state) (m n : Nat) :
    C.keyByte (C.advance s m) n = C.keyByte s (m + n) := by
  rw [keyByte, keyByte, advance_add]

theorem xor_xor_cancel (b k : UInt8) : (b ^^^ k) ^^^ k = b := by
  rw [UInt8.xor_assoc, UInt8.xor_self, UInt8.xor_zero]

theorem encode_encode (s : state) (xs : List UInt8) :
    C.encode s (C.encode s xs).1 = (xs, (C.encode s xs).2) := by
  induction xs generalizing s with
  | nil => rfl
  | cons x rest ih =>
      rw [encode_cons, encode_cons, ih, xor_xor_cancel]

theorem encode_take (s : state) (xs : List UInt8) (n : Nat) :
    (C.encode s xs).1.take n = (C.encode s (xs.take n)).1 := by
  induction n generalizing s xs with
  | zero => rfl
  | succ n ih =>
      cases xs with
      | nil => rfl
      | cons x rest =>
          rw [encode_cons, List.take_succ_cons, List.take_succ_cons,
            encode_cons, ih]

theorem encode_drop (s : state) (xs : List UInt8) (n : Nat) :
    (C.encode s xs).1.drop n =
      (C.encode (C.advance s n) (xs.drop n)).1 := by
  induction n generalizing s xs with
  | zero => rfl
  | succ n ih =>
      cases xs with
      | nil => rfl
      | cons x rest =>
          rw [encode_cons, List.drop_succ_cons, List.drop_succ_cons, ih]
          rfl

/-- The transform of the cipher undoes its own encoding. -/
theorem run_encode (s : state) (xs : List UInt8) :
    C.transform.run s (C.encode s xs).1 = (xs, C.advance s xs.length) := by
  change C.encode s (C.encode s xs).1 = _
  rw [encode_encode, encode_state]

theorem encode_getElem? (s : state) (xs : List UInt8) (n : Nat) :
    (C.encode s xs).1[n]? = xs[n]?.map fun b => b ^^^ C.keyByte s n := by
  induction xs generalizing s n with
  | nil => rfl
  | cons x rest ih =>
      rw [encode_cons]
      cases n with
      | zero => rfl
      | succ n =>
          rw [List.getElem?_cons_succ, List.getElem?_cons_succ, ih]
          rfl

theorem encode_congr {s t : state} {xs : List UInt8}
    (hkey : forall n, n < xs.length -> C.keyByte s n = C.keyByte t n) :
    (C.encode s xs).1 = (C.encode t xs).1 := by
  apply List.ext_getElem?
  intro n
  rw [encode_getElem?, encode_getElem?]
  by_cases hn : n < xs.length
  · rw [hkey n hn]
  · rw [List.getElem?_eq_none (by lia)]
    rfl

/-- Two states that encode a string alike agree on its key stream. -/
theorem keyByte_eq_of_encode_eq {s t : state} {xs : List UInt8}
    (h : (C.encode s xs).1 = (C.encode t xs).1) {n : Nat}
    (hn : n < xs.length) :
    C.keyByte s n = C.keyByte t n := by
  have hbyte := congrArg (fun bytes => bytes[n]?) h
  simp only [encode_getElem?, List.getElem?_eq_getElem hn,
    Option.map_some] at hbyte
  exact (UInt8.xor_right_inj xs[n]).mp (Option.some.inj hbyte)

def plain : StreamCipher Unit where
  next _ := (0, ())

theorem plain_transform : plain.transform = ByteTransform.identity := by
  have happly : plain.transform.apply = ByteTransform.identity.apply := by
    funext s b
    change (b ^^^ 0, ()) = (b, ())
    rw [UInt8.xor_zero]
  exact congrArg ByteTransform.mk happly

/-- The cipher whose key stream is given and whose state is a position. -/
def ofKeystream (keystream : Nat -> UInt8) : StreamCipher Nat where
  next position := (keystream position, position + 1)

theorem ofKeystream_advance (keystream : Nat -> UInt8) (position n : Nat) :
    (ofKeystream keystream).advance position n = position + n := by
  induction n generalizing position with
  | zero => rfl
  | succ n ih =>
      rw [advance]
      change (ofKeystream keystream).advance (position + 1) n = _
      rw [ih]
      lia

theorem ofKeystream_keyByte (keystream : Nat -> UInt8) (position n : Nat) :
    (ofKeystream keystream).keyByte position n =
      keystream (position + n) := by
  rw [keyByte, ofKeystream_advance]
  rfl

theorem encode_of_silent {keystream : Nat -> UInt8} {position : Nat}
    (hsilent : forall n, position ≤ n -> keystream n = 0)
    (xs : List UInt8) :
    ((ofKeystream keystream).encode position xs).1 = xs := by
  apply List.ext_getElem?
  intro n
  rw [encode_getElem?, ofKeystream_keyByte,
    hsilent (position + n) (Nat.le_add_right _ _)]
  simp

/-- The key stream that turns one byte string into another at a position. -/
def maskAt (position : Nat) (xs ys : List UInt8) (n : Nat) : UInt8 :=
  if n < position then 0
  else xs.getD (n - position) 0 ^^^ ys.getD (n - position) 0

theorem maskAt_silent {position : Nat} {xs ys : List UInt8}
    (hlen : xs.length = ys.length) {n : Nat}
    (hn : position + xs.length ≤ n) :
    maskAt position xs ys n = 0 := by
  have hxs : xs.length ≤ n - position := by
    lia
  rw [maskAt, if_neg (by lia), List.getD_eq_getElem?_getD,
    List.getD_eq_getElem?_getD, List.getElem?_eq_none hxs,
    List.getElem?_eq_none (hlen ▸ hxs), UInt8.xor_self]

theorem encode_maskAt (position : Nat) {xs ys : List UInt8}
    (hlen : xs.length = ys.length) :
    ((ofKeystream (maskAt position xs ys)).encode position xs).1 = ys := by
  apply List.ext_getElem?
  intro n
  rw [encode_getElem?, ofKeystream_keyByte, maskAt, if_neg (by lia),
    Nat.add_sub_cancel_left]
  by_cases hn : n < xs.length
  · have hn' : n < ys.length := hlen ▸ hn
    have hxs : xs[n]? = some xs[n] := List.getElem?_eq_getElem hn
    have hys : ys[n]? = some ys[n] := List.getElem?_eq_getElem hn'
    rw [List.getD_eq_getElem?_getD, List.getD_eq_getElem?_getD, hxs, hys]
    simp [← UInt8.xor_assoc]
  · rw [List.getElem?_eq_none (by lia), List.getElem?_eq_none (by lia)]
    rfl

end StreamCipher

end Library
end Rzu
