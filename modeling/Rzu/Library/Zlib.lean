import Mathlib.Algebra.Ring.Nat
import Mathlib.Data.List.Basic

/-!
# Compressed streams

What programs call of a library that compresses all at once and decompresses
piece by piece, and what the library promises.
-/

namespace Rzu
namespace Library

inductive ZlibCode where
  | ok
  | streamEnd
  | needDict
  | errno
  | streamError
  | dataError
  | memError
  | bufError
  | versionError
deriving DecidableEq

/-- What one call has made of the stream. -/
structure InflateCall (State : Type) where
  code : ZlibCode
  state : State
  consumed : Nat
  produced : List UInt8

/--
The calls about a stream.  `deflate` is told to finish, and `inflate` gets the
input that is available and the room for output.
-/
structure Zlib where
  State : Type
  deflateInit2 : Int -> ZlibCode
  deflateBound : Nat -> Nat
  deflate : Int -> List UInt8 -> Nat -> ZlibCode × List UInt8
  deflateEnd : ZlibCode
  inflateInit2 : ZlibCode
  inflateStart : State
  inflate : State -> List UInt8 -> Nat -> InflateCall State
  inflateEnd : State -> ZlibCode

def ZlibCode.isFatal : ZlibCode -> Bool
  | needDict => true
  | dataError => true
  | memError => true
  | streamError => true
  | _ => false

namespace Zlib

def ValidLevel (level : Int) : Prop := -1 ≤ level ∧ level ≤ 9

/--
A call gives the next bytes of the output.  It stops when the room is full, or
when all of the input is consumed and all of the output is given; in the first
case it may also have consumed all of the input.
-/
structure Serves {State : Type}
    (pending : State -> List UInt8 -> List UInt8 -> Prop)
    (input output : List UInt8) (room : Nat) (call : InflateCall State) :
    Prop where
  code : call.code.isFatal = false
  produced : call.produced = output.take call.produced.length
  fits : call.produced.length ≤ room
  later : pending call.state (input.drop call.consumed)
    (output.drop call.produced.length)
  stops : call.produced.length = room ∨
    (call.produced.length = output.length ∧ input.length ≤ call.consumed)

/--
The promises of the library.  `pending` says what output a stream still gives
for the input that it has not consumed yet.
-/
structure Keeps (z : Zlib)
    (pending : z.State -> List UInt8 -> List UInt8 -> Prop) : Prop where
  deflateInit2 : forall level, ValidLevel level ->
    z.deflateInit2 level = ZlibCode.ok
  /-- The bound is a little more than the length. -/
  deflateBound : forall n, n ≤ 2 ^ 31 -> z.deflateBound n < 2 ^ 32
  deflate : forall level data room, ValidLevel level ->
    z.deflateBound data.length ≤ room ->
      (z.deflate level data room).1 = ZlibCode.streamEnd ∧
        (z.deflate level data room).2.length ≤ room ∧
        pending z.inflateStart (z.deflate level data room).2 data
  deflateEnd : z.deflateEnd = ZlibCode.ok
  inflateInit2 : z.inflateInit2 = ZlibCode.ok
  inflate : forall s input output room, pending s input output ->
    Serves pending input output room (z.inflate s input room)
  inflateEnd : forall s, z.inflateEnd s = ZlibCode.ok

/-- A stream has nothing left to give once it has consumed all of its input. -/
def Prompt {z : Zlib}
    (pending : z.State -> List UInt8 -> List UInt8 -> Prop) : Prop :=
  forall s output, pending s [] output -> output = []

/-! ## One call -/

namespace Serves

variable {State : Type}
  {pending : State -> List UInt8 -> List UInt8 -> Prop}
  {input output : List UInt8} {room : Nat} {call : InflateCall State}
  (h : Serves pending input output room call)
include h

theorem produced_le : call.produced.length ≤ output.length := by
  have hlength := congrArg List.length h.produced
  rw [List.length_take] at hlength
  omega

end Serves

/-! ## A library that keeps its promises -/

/-- A stream that stores the bytes and reads ahead as far as it can. -/
def stored : Zlib where
  State := List UInt8
  deflateInit2 _ := ZlibCode.ok
  deflateBound n := n + 18
  deflate _ data room :=
    if data.length ≤ room then (ZlibCode.streamEnd, data)
    else (ZlibCode.ok, data.take room)
  deflateEnd := ZlibCode.ok
  inflateInit2 := ZlibCode.ok
  inflateStart := []
  inflate s input room :=
    { code := ZlibCode.ok
      state := (s ++ input).drop room
      consumed := input.length
      produced := (s ++ input).take room }
  inflateEnd _ := ZlibCode.ok

def storedPending (s input output : List UInt8) : Prop := output = s ++ input

theorem stored_keeps : stored.Keeps storedPending where
  deflateInit2 := by
    intro level hlevel
    rfl
  deflateBound := by
    intro n hn
    change n + 18 < 2 ^ 32
    omega
  deflate := by
    intro level data room hlevel hroom
    have hle : data.length ≤ room := by
      change data.length + 18 ≤ room at hroom
      omega
    have heq : stored.deflate level data room =
        (ZlibCode.streamEnd, data) := if_pos hle
    rw [heq]
    exact ⟨rfl, hle, rfl⟩
  deflateEnd := rfl
  inflateInit2 := rfl
  inflate := by
    intro s input output room hpending
    cases hpending
    change List UInt8 at s
    refine ⟨rfl, ?_, ?_, ?_, ?_⟩
    · change (s ++ input).take room =
        (s ++ input).take ((s ++ input).take room).length
      rw [List.length_take, List.take_eq_take_iff]
      omega
    · exact List.length_take_le _ _
    · change (s ++ input).drop ((s ++ input).take room).length =
        (s ++ input).drop room ++ input.drop input.length
      rw [List.drop_length, List.append_nil, List.length_take]
      by_cases hle : room ≤ (s ++ input).length
      · rw [Nat.min_eq_left hle]
      · rw [Nat.min_eq_right (by omega), List.drop_length,
          List.drop_eq_nil_of_le (by omega)]
    · change ((s ++ input).take room).length = room ∨
        ((s ++ input).take room).length = (s ++ input).length ∧
          input.length ≤ input.length
      rw [List.length_take]
      omega
  inflateEnd := by
    intro s
    rfl

end Zlib

end Library
end Rzu
