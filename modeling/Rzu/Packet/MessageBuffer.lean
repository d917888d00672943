import Rzu.Library.FixedWidth

/-!
# Message buffers

The memory that a packet is written to or read from, a cursor, and a flag that
stays set once a field did not fit.  A result of none stands for an access
outside the memory of an object.
-/

namespace Rzu
namespace Packet

open Library

abbrev CharString := List UInt8

def int8 : IntType := ⟨1, true, by decide⟩
def int32 : IntType := ⟨4, true, by decide⟩
def int64 : IntType := ⟨8, true, by decide⟩
def uint8 : IntType := ⟨1, false, by decide⟩
def uint16 : IntType := ⟨2, false, by decide⟩
def uint32 : IntType := ⟨4, false, by decide⟩
def uint64 : IntType := ⟨8, false, by decide⟩

structure MessageBuffer where
  buffer : List UInt8
  /-- Offset of the cursor. -/
  p : Nat
  bufferOverflow : Bool
  fieldInOverflow : String
deriving DecidableEq

namespace MessageBuffer

/-- The constructors: new memory holds anything. -/
def create (memory : List UInt8) : MessageBuffer where
  buffer := memory
  p := 0
  bufferOverflow := false
  fieldInOverflow := ""

def getSize (b : MessageBuffer) : Nat := b.buffer.length % 2 ^ 32

def getParsedSize (b : MessageBuffer) : Nat := b.p % 2 ^ 32

def msgSize (b : MessageBuffer) : Nat := leNat (b.buffer.take 4)

def checkPacketFinalSize (b : MessageBuffer) : Bool :=
  !b.bufferOverflow && b.msgSize == b.getSize && b.getParsedSize == b.msgSize

def checkAvailableBuffer (b : MessageBuffer) (fieldName : String)
    (size : Nat) : Bool × MessageBuffer :=
  if b.bufferOverflow then (false, b)
  else if size < 65536 ∧ b.p + size ≤ b.getSize then (true, b)
  else (false, { b with bufferOverflow := true, fieldInOverflow := fieldName })

/-- The cursor moves. -/
def advance (b : MessageBuffer) (size : Nat) : MessageBuffer :=
  { b with p := b.p + size }

/-!
## Writing
-/

/-- Memory is written at the cursor, which moves behind it. -/
def store (b : MessageBuffer) (bytes : List UInt8) : MessageBuffer :=
  { b with
    buffer := b.buffer.take b.p ++ bytes ++ b.buffer.drop (b.p + bytes.length)
    p := b.p + bytes.length }

def put (b : MessageBuffer) (fieldName : String) (bytes : List UInt8) :
    MessageBuffer :=
  match b.checkAvailableBuffer fieldName bytes.length with
  | (true, b) => b.store bytes
  | (false, b) => b

def write (T : IntType) (b : MessageBuffer) (fieldName : String)
    (val : Int) : MessageBuffer :=
  b.put fieldName (T.encode val)

def writeArray (T : IntType) (b : MessageBuffer) (fieldName : String)
    (val : Nat -> Int) (size : Nat) : MessageBuffer :=
  b.put fieldName ((List.range size).flatMap fun i => T.encode (val i))

def writeDynArray (T : IntType) (b : MessageBuffer) (fieldName : String)
    (val : List Int) (count : Nat) : Option MessageBuffer :=
  if T.size * count = 0 then some b
  else
    match b.checkAvailableBuffer fieldName (T.size * count) with
    | (true, b) =>
        if count ≤ val.length then
          some (b.store ((val.take count).flatMap T.encode))
        else none
    | (false, b) => some b

/--
A string that is cut off before the last byte.  Without any byte the room for
the terminator is negative, and everything behind the buffer is overwritten.
-/
def writeString (b : MessageBuffer) (fieldName : String) (val : CharString)
    (maxSize : Nat) : Option MessageBuffer :=
  match b.checkAvailableBuffer fieldName maxSize with
  | (true, b) =>
      if maxSize = 0 ∧ val ≠ [] then none
      else
        some (b.store (val.take (maxSize - 1) ++
          List.replicate (maxSize - min val.length (maxSize - 1)) 0))
  | (false, b) => some b

def writeDynString (b : MessageBuffer) (fieldName : String)
    (val : CharString) (count : Nat) : Option MessageBuffer :=
  match b.checkAvailableBuffer fieldName count with
  | (true, b) =>
      if count ≤ val.length + 1 then
        some (b.store ((val ++ [0]).take count))
      else none
  | (false, b) => some b

def writeSize (T : IntType) (b : MessageBuffer) (fieldName : String)
    (size : Nat) : MessageBuffer :=
  b.write T fieldName size

def pad (b : MessageBuffer) (fieldName : String) (size : Nat) :
    MessageBuffer :=
  b.put fieldName (List.replicate size 0)

def getMessageChecksum (size id : Nat) : Nat :=
  (size % 256 + size / 256 % 256 + size / 65536 % 256 +
    size / 16777216 % 256 + id % 256 + id / 256 % 256) % 256

def writeHeader (b : MessageBuffer) (size id : Nat) : MessageBuffer :=
  let b := b.write uint32 "size" size
  let b := b.write uint16 "id" id
  b.write uint8 "msg_checksum" (getMessageChecksum size id)

/-!
## Reading
-/

/-- Memory behind the cursor. -/
def load (b : MessageBuffer) (size : Nat) : Option (List UInt8) :=
  if b.p + size ≤ b.buffer.length then some ((b.buffer.drop b.p).take size)
  else none

def convert (T U : IntType) (bytes : List UInt8) : Int := U.cast (T.decode bytes)

def slice (T : IntType) (bytes : List UInt8) (i : Nat) : List UInt8 :=
  (bytes.drop (i * T.size)).take T.size

def read (T U : IntType) (b : MessageBuffer) (fieldName : String)
    (val : Int) : Option (MessageBuffer × Int) :=
  match b.checkAvailableBuffer fieldName T.size with
  | (true, b) => do
      let bytes <- b.load T.size
      pure (b.advance T.size, convert T U bytes)
  | (false, b) => some (b, val)

def readString (b : MessageBuffer) (fieldName : String) (val : CharString)
    (maxSize : Nat) : Option (MessageBuffer × CharString) :=
  match b.checkAvailableBuffer fieldName maxSize with
  | (true, b) => do
      let bytes <- b.load (maxSize - 1)
      pure (b.advance maxSize, bytes.takeWhile (· ≠ 0))
  | (false, b) => some (b, val)

def readDynString (b : MessageBuffer) (fieldName : String) (val : CharString)
    (sizeToRead : Nat) (hasNullTerminator : Bool) :
    Option (MessageBuffer × CharString) :=
  match b.checkAvailableBuffer fieldName sizeToRead with
  | (true, b) => do
      let bytes <- b.load (sizeToRead - hasNullTerminator.toNat)
      pure (b.advance sizeToRead, if sizeToRead = 0 then [] else bytes)
  | (false, b) => some (b, val)

/-- What is left behind the cursor. -/
def remainingSize (b : MessageBuffer) : Nat := b.getSize - b.getParsedSize

def readEndString (b : MessageBuffer) (fieldName : String) (val : CharString)
    (hasNullTerminator : Bool) : Option (MessageBuffer × CharString) :=
  b.readDynString fieldName val b.remainingSize hasNullTerminator

def readArray (T U : IntType) (b : MessageBuffer) (fieldName : String)
    (val : Nat -> Int) (size : Nat) : Option (MessageBuffer × (Nat -> Int)) :=
  match b.checkAvailableBuffer fieldName (T.size * size) with
  | (true, b) => do
      let bytes <- b.load (T.size * size)
      pure (b.advance (T.size * size), fun i =>
        if i < size then convert T U (slice T bytes i) else val i)
  | (false, b) => some (b, val)

def readDynArray (T U : IntType) (b : MessageBuffer) (fieldName : String)
    (sizeToRead : Nat) : Option (MessageBuffer × List Int) :=
  if T.size * sizeToRead = 0 then some (b, [])
  else
    match b.checkAvailableBuffer fieldName (T.size * sizeToRead) with
    | (true, b) => do
        let bytes <- b.load (T.size * sizeToRead)
        pure (b.advance (T.size * sizeToRead),
          (List.range sizeToRead).map fun i => convert T U (slice T bytes i))
    | (false, b) => some (b, [])

/-- The cursor moves by the number of elements, not by that of their bytes. -/
def readEndArray (T U : IntType) (b : MessageBuffer) (fieldName : String)
    (val : List Int) : Option (MessageBuffer × List Int) :=
  let remaining := b.remainingSize / T.size
  match b.checkAvailableBuffer fieldName remaining with
  | (true, b) => do
      let bytes <- b.load (T.size * remaining)
      pure (b.advance remaining,
        (List.range remaining).map fun i => convert T U (slice T bytes i))
  | (false, b) => some (b, val)

def readSize (T : IntType) (b : MessageBuffer) (fieldName : String)
    (val : Nat) : Option (MessageBuffer × Nat) := do
  let result <- b.read T uint32 fieldName val
  pure (result.1, result.2.toNat)

def discard (b : MessageBuffer) (fieldName : String) (size : Nat) :
    MessageBuffer :=
  match b.checkAvailableBuffer fieldName size with
  | (true, b) => b.advance size
  | (false, b) => b

def readHeader (b : MessageBuffer) (id : Int) :
    Option (MessageBuffer × Int) := do
  let result <- (b.discard "size" 4).read uint16 uint16 "id" id
  pure (result.1.discard "msg_checksum" 1, result.2)

end MessageBuffer

end Packet
end Rzu
