import Mathlib.Logic.Function.Basic
import Rzu.Packet.MessageBuffer

/-!
# Packet declarations

A packet is declared by the list of its fields; its size, its serialization and
its deserialization are generated from that list, line by line.
-/

namespace Rzu
namespace Packet

open Library

/-- The epic in the low bytes, flags in the high byte. -/
abbrev Version := UInt32

def EPIC_2 : Version := 0x020100
def EPIC_4_1 : Version := 0x040100
def EPIC_5_2 : Version := 0x050200
def EPIC_7_4 : Version := 0x070400
def EPIC_8_1_1_RSA : Version := 0x080101
def EPIC_9_2 : Version := 0x090200
def EPIC_9_6_3 : Version := 0x090603
def EPIC_9_6_5 : Version := 0x090605
def EPIC_9_6_6 : Version := 0x090606
def EPIC_9_6_7 : Version := 0x090607

/-- `version >= epic`, which does not look at the flags. -/
def atLeast (epic version : Version) : Bool :=
  epic ≤ version &&& 0x00FFFFFF

/--
The members of a struct by the kind of their type.  Objects that were never
assigned are absent.
-/
structure Record where
  integer : String -> Int
  array : String -> Nat -> Int
  vector : String -> List Int
  string : String -> CharString
  object? : String -> Option Record
  objectArray? : String -> Nat -> Option Record
  objectVector : String -> List Record

namespace Record

/-- A value-initialised struct. -/
def zero : Record where
  integer _ := 0
  array _ _ := 0
  vector _ := []
  string _ := []
  object? _ := none
  objectArray? _ _ := none
  objectVector _ := []

def object (r : Record) (name : String) : Record :=
  (r.object? name).getD zero

def objectArray (r : Record) (name : String) (i : Nat) : Record :=
  (r.objectArray? name i).getD zero

def setInteger (r : Record) (name : String) (val : Int) : Record :=
  { r with integer := Function.update r.integer name val }

def setArray (r : Record) (name : String) (val : Nat -> Int) : Record :=
  { r with array := Function.update r.array name val }

def setVector (r : Record) (name : String) (val : List Int) : Record :=
  { r with vector := Function.update r.vector name val }

def setString (r : Record) (name : String) (val : CharString) : Record :=
  { r with string := Function.update r.string name val }

def setObject (r : Record) (name : String) (val : Record) : Record :=
  { r with object? := Function.update r.object? name (some val) }

def setObjectArray (r : Record) (name : String) (val : List Record) :
    Record :=
  { r with
    objectArray? := Function.update r.objectArray? name fun i =>
      if i < val.length then val[i]? else r.objectArray? name i }

def setObjectVector (r : Record) (name : String) (val : List Record) :
    Record :=
  { r with objectVector := Function.update r.objectVector name val }

section Members

variable (r : Record) (name other : String)

@[simp] theorem integer_setInteger (val : Int) :
    (r.setInteger name val).integer other =
      if other = name then val else r.integer other :=
  Function.update_apply r.integer name val other

@[simp] theorem array_setArray (val : Nat -> Int) :
    (r.setArray name val).array other =
      if other = name then val else r.array other :=
  Function.update_apply r.array name val other

@[simp] theorem vector_setVector (val : List Int) :
    (r.setVector name val).vector other =
      if other = name then val else r.vector other :=
  Function.update_apply r.vector name val other

@[simp] theorem string_setString (val : CharString) :
    (r.setString name val).string other =
      if other = name then val else r.string other :=
  Function.update_apply r.string name val other

@[simp] theorem setArray_integer (val : Nat -> Int) :
    (r.setArray name val).integer other = r.integer other := rfl

@[simp] theorem setVector_integer (val : List Int) :
    (r.setVector name val).integer other = r.integer other := rfl

@[simp] theorem setString_integer (val : CharString) :
    (r.setString name val).integer other = r.integer other := rfl

@[simp] theorem setObjectVector_integer (val : List Record) :
    (r.setObjectVector name val).integer other = r.integer other := rfl

@[simp] theorem setInteger_array (val : Int) :
    (r.setInteger name val).array other = r.array other := rfl

@[simp] theorem setObjectVector_array (val : List Record) :
    (r.setObjectVector name val).array other = r.array other := rfl

@[simp] theorem setInteger_vector (val : Int) :
    (r.setInteger name val).vector other = r.vector other := rfl

@[simp] theorem setString_vector (val : CharString) :
    (r.setString name val).vector other = r.vector other := rfl

@[simp] theorem setInteger_string (val : Int) :
    (r.setInteger name val).string other = r.string other := rfl

@[simp] theorem setVector_string (val : List Int) :
    (r.setVector name val).string other = r.string other := rfl

end Members

end Record

/-- The local variables: the counts in force and the declared markers. -/
structure Locals where
  size : String -> Nat
  marker : String -> Option Nat

namespace Locals

def initial : Locals where
  size _ := 0
  marker _ := none

def setSize (l : Locals) (ref : String) (val : Nat) : Locals :=
  { l with size := Function.update l.size ref val }

def setMarker (l : Locals) (marker : String) (val : Nat) : Locals :=
  { l with marker := Function.update l.marker marker (some val) }

end Locals

/-- Addition of `uint32_t`. -/
def add32 (m n : Nat) : Nat := (m + n) % 2 ^ 32

/-- What a `count` counts, and `addNullTerminator` for strings. -/
inductive Container where
  | vector
  | objectVector
  | string (addNullTerminator : Bool)
deriving DecidableEq

def Container.size (r : Record) (ref : String) : Container -> Nat
  | vector => (r.vector ref).length
  | objectVector => (r.objectVector ref).length
  | string addNullTerminator =>
      (r.string ref).length + addNullTerminator.toNat

def getClampedCount (T : IntType) (realSize : Nat) : Nat :=
  if realSize < T.max then realSize else T.max

/--
A field that holds no object.  `type` is the type on the wire and `member` that
of the member, if they differ.  The default of a `dynarray` or an `endarray` is
assigned to a copy of the vector and has no effect.  The name of the field is
that of the marker for `padmarker` and `pad`, which has to be declared.
-/
inductive Metatype where
  | simple (type member : IntType) (defaultval : Option Int)
  | array (type member : IntType) (size : Nat)
      (defaultval : Option (Nat -> Int))
  | dynarray (type member : IntType)
  | count (type : IntType) (ref : Container) (defaultval : Option Nat)
  | string (size : Nat) (defaultval : Option CharString)
  | dynstring (hasNullTerminator : Bool) (defaultval : Option CharString)
  | padmarker
  | pad (size : Record -> Nat)
  | endstring (hasNullTerminator : Bool) (defaultval : Option CharString)
  | endarray (type member : IntType)

/-- How a field holds objects. -/
inductive Shape where
  | simple (defaultval : Option Record)
  | array (size : Nat)
  | dynarray
  | endarray

/-- A condition reads the version, and fields that come earlier. -/
abbrev Condition := Version -> Record -> Bool

/-- The fields of a struct in order. -/
inductive Struct where
  | nil
  | field (name : String) (cond : Condition) (metatype : Metatype)
      (rest : Struct)
  | object (name : String) (cond : Condition) (shape : Shape)
      (type : Struct) (rest : Struct)

namespace Metatype

/-- What is left of a field whose condition fails: a count has its default. -/
def skip (name : String) (l : Locals) : Metatype -> Locals
  | count _ _ (some defaultval) => l.setSize name (defaultval % 2 ^ 32)
  | _ => l

/-!
## Sizes
-/

def addSize (name : String) (r : Record) (l : Locals) (size : Nat) :
    Metatype -> Option (Locals × Nat)
  | simple type _ _ => some (l, add32 size type.size)
  | array type _ n _ => some (l, add32 size (type.size * n))
  | dynarray type _ =>
      if l.size name ≤ (r.vector name).length then
        some (l, add32 size (type.size * l.size name))
      else none
  | count type ref _ =>
      some (l.setSize name (getClampedCount type (ref.size r name)),
        add32 size type.size)
  | string n _ => some (l, add32 size n)
  | dynstring _ _ => some (l, add32 size (l.size name))
  | padmarker => some (l.setMarker name size, size)
  | pad n => do
      let marker <- l.marker name
      if size < add32 marker (n r) then pure (l, add32 marker (n r))
      else pure (l, size)
  | endstring hasNullTerminator _ =>
      some (l, add32 size
        ((r.string name).length + hasNullTerminator.toNat))
  | endarray type _ =>
      some (l, add32 size (type.size * (r.vector name).length))

/-!
## Serialization
-/

def write (name : String) (r : Record) (l : Locals) (b : MessageBuffer) :
    Metatype -> Option (Locals × MessageBuffer)
  | simple type _ _ => some (l, b.write type name (r.integer name))
  | array type _ n _ => some (l, b.writeArray type name (r.array name) n)
  | dynarray type _ =>
      (b.writeDynArray type name (r.vector name) (l.size name)).map fun b =>
        (l, b)
  | count type ref _ =>
      let n := getClampedCount type (ref.size r name)
      some (l.setSize name n, b.writeSize type name n)
  | string n _ => (b.writeString name (r.string name) n).map fun b => (l, b)
  | dynstring _ _ =>
      (b.writeDynString name (r.string name) (l.size name)).map fun b =>
        (l, b)
  | padmarker => some (l.setMarker name b.getParsedSize, b)
  | pad n => do
      let marker <- l.marker name
      if b.getParsedSize < add32 marker (n r) then
        pure (l, b.pad ("pad_" ++ name)
          (add32 marker (n r) - b.getParsedSize))
      else pure (l, b)
  | endstring hasNullTerminator _ =>
      (b.writeDynString name (r.string name)
        (add32 (r.string name).length hasNullTerminator.toNat)).map fun b =>
          (l, b)
  | endarray type _ =>
      (b.writeDynArray type name (r.vector name)
        ((r.vector name).length % 2 ^ 32)).map fun b => (l, b)

/-!
## Deserialization
-/

def read (name : String) (l : Locals) (b : MessageBuffer) (r : Record) :
    Metatype -> Option (Locals × MessageBuffer × Record)
  | simple type member _ =>
      (b.read type member name (r.integer name)).map fun result =>
        (l, result.1, r.setInteger name result.2)
  | array type member n _ =>
      (b.readArray type member name (r.array name) n).map fun result =>
        (l, result.1, r.setArray name result.2)
  | dynarray type member =>
      (b.readDynArray type member name (l.size name)).map fun result =>
        (l, result.1, r.setVector name result.2)
  | count type _ _ =>
      (b.readSize type name (l.size name)).map fun result =>
        (l.setSize name result.2, result.1, r)
  | string n _ =>
      (b.readString name (r.string name) n).map fun result =>
        (l, result.1, r.setString name result.2)
  | dynstring hasNullTerminator _ =>
      (b.readDynString name (r.string name) (l.size name)
        hasNullTerminator).map fun result =>
          (l, result.1, r.setString name result.2)
  | padmarker => some (l.setMarker name b.getParsedSize, b, r)
  | pad n => do
      let marker <- l.marker name
      if b.getParsedSize < add32 marker (n r) then
        pure (l, b.discard ("pad_" ++ name)
          (add32 marker (n r) - b.getParsedSize), r)
      else pure (l, b, r)
  | endstring hasNullTerminator _ =>
      (b.readEndString name (r.string name) hasNullTerminator).map
        fun result => (l, result.1, r.setString name result.2)
  | endarray type member =>
      (b.readEndArray type member name (r.vector name)).map fun result =>
        (l, result.1, r.setVector name result.2)

/--
The default of an array is copied with `memcpy`, which is told the number of
elements instead of the number of bytes.
-/
def copyDefaultArray (T : IntType) (size : Nat) (defaultval val : Nat -> Int)
    (i : Nat) : Int :=
  let copied := size - i * T.size
  T.decode ((T.encode (defaultval i)).take copied ++
    (T.encode (val i)).drop copied)

/-- The default of a field whose condition fails. -/
def copyDefaultValue (name : String) (r : Record) : Metatype -> Record
  | simple type member (some defaultval) =>
      r.setInteger name (member.cast (type.cast defaultval))
  | array type _ n (some defaultval) =>
      r.setArray name (copyDefaultArray type n defaultval (r.array name))
  | string _ (some defaultval) => r.setString name defaultval
  | dynstring _ (some defaultval) => r.setString name defaultval
  | endstring _ (some defaultval) => r.setString name defaultval
  | _ => r

end Metatype

namespace Shape

/-- The objects that are written. -/
def elements (name : String) (r : Record) (l : Locals) :
    Shape -> Option (List Record)
  | simple _ => some [r.object name]
  | array n => some ((List.range n).map (r.objectArray name))
  | dynarray =>
      if l.size name ≤ (r.objectVector name).length then
        some ((r.objectVector name).take (l.size name))
      else none
  | endarray => some (r.objectVector name)

def copyDefaultValue (name : String) (r : Record) : Shape -> Record
  | simple (some defaultval) => r.setObject name defaultval
  | _ => r

end Shape

/-- `resize` of a vector: what it holds is kept. -/
def resize (count : Nat) (val : List Record) : List Record :=
  val.take count ++ List.replicate (count - val.length) Record.zero

/-- Objects are read one after the other into the ones that are there. -/
def readEach
    (readItem : MessageBuffer -> Record -> Option (MessageBuffer × Record)) :
    List Record -> MessageBuffer -> Option (MessageBuffer × List Record)
  | [], b => some (b, [])
  | item :: items, b => do
      let first <- readItem b item
      let later <- readEach readItem items first.1
      pure (later.1, first.2 :: later.2)

/--
Objects are read as long as something is left and something was read.  The fuel
bounds the passes of the loop; running out of it is no result.
-/
def readEndEach
    (readItem : MessageBuffer -> Record -> Option (MessageBuffer × Record)) :
    Nat -> Nat -> MessageBuffer -> List Record ->
      Option (MessageBuffer × List Record)
  | 0, _, _, _ => none
  | fuel + 1, lastParsedSize, b, val =>
      if lastParsedSize ≠ b.getParsedSize ∧ b.getParsedSize < b.getSize then do
        let item <- readItem b Record.zero
        readEndEach readItem fuel b.getParsedSize item.1 (val ++ [item.2])
      else some (b, val)

def Shape.read
    (readItem : MessageBuffer -> Record -> Option (MessageBuffer × Record))
    (name : String) (l : Locals) (b : MessageBuffer) (r : Record) :
    Shape -> Option (MessageBuffer × Record)
  | simple _ =>
      (readItem b (r.object name)).map fun result =>
        (result.1, r.setObject name result.2)
  | array n =>
      (readEach readItem ((List.range n).map (r.objectArray name)) b).map
        fun result => (result.1, r.setObjectArray name result.2)
  | dynarray =>
      match b.checkAvailableBuffer name (l.size name) with
      | (true, b) =>
          (readEach readItem (resize (l.size name) (r.objectVector name))
            b).map fun result =>
              (result.1, r.setObjectVector name result.2)
      | (false, b) => some (b, r)
  | endarray =>
      (readEndEach readItem (b.getSize + 1) (2 ^ 32 - 1) b
        (r.objectVector name)).map fun result =>
          (result.1, r.setObjectVector name result.2)

namespace Struct

def addSize (version : Version) :
    Struct -> Record -> Locals -> Nat -> Option Nat
  | nil, _, _, size => some size
  | field name cond metatype rest, r, l, size =>
      if cond version r then do
        let sized <- metatype.addSize name r l size
        rest.addSize version r sized.1 sized.2
      else rest.addSize version r (metatype.skip name l) size
  | object name cond shape type rest, r, l, size =>
      if cond version r then do
        let elements <- shape.elements name r l
        let size <- elements.foldlM (fun size item =>
          (type.addSize version item Locals.initial 0).map (add32 size)) size
        rest.addSize version r l size
      else rest.addSize version r l size

def getSize (type : Struct) (version : Version) (r : Record) : Option Nat :=
  type.addSize version r Locals.initial 0

/-- Serialize the fields, with the local variables so far. -/
def write (version : Version) :
    Struct -> Record -> Locals -> MessageBuffer -> Option MessageBuffer
  | nil, _, _, b => some b
  | field name cond metatype rest, r, l, b =>
      if cond version r then do
        let written <- metatype.write name r l b
        rest.write version r written.1 written.2
      else rest.write version r (metatype.skip name l) b
  | object name cond shape type rest, r, l, b =>
      if cond version r then do
        let elements <- shape.elements name r l
        let b <- elements.foldlM (fun b item =>
          type.write version item Locals.initial b) b
        rest.write version r l b
      else rest.write version r l b

def serialize (type : Struct) (version : Version) (r : Record)
    (b : MessageBuffer) : Option MessageBuffer :=
  type.write version r Locals.initial b

/-- Deserialize the fields, with the local variables so far. -/
def read (version : Version) :
    Struct -> Locals -> MessageBuffer -> Record ->
      Option (MessageBuffer × Record)
  | nil, _, b, r => some (b, r)
  | field name cond metatype rest, l, b, r =>
      if cond version r then do
        let result <- metatype.read name l b r
        rest.read version result.1 result.2.1 result.2.2
      else
        rest.read version (metatype.skip name l) b
          (metatype.copyDefaultValue name r)
  | object name cond shape type rest, l, b, r =>
      if cond version r then do
        let result <- shape.read
          (fun b item => type.read version Locals.initial b item) name l b r
        rest.read version l result.1 result.2
      else rest.read version l b (shape.copyDefaultValue name r)

def deserialize (type : Struct) (version : Version) (b : MessageBuffer)
    (r : Record) : Option (MessageBuffer × Record) :=
  type.read version Locals.initial b r

end Struct

/-!
## Packets
-/

/-- A packet has a header of seven bytes before its fields. -/
structure PacketType where
  getId : Version -> UInt16
  fields : Struct

namespace PacketType

def getSize (packet : PacketType) (version : Version) (r : Record) :
    Option Nat :=
  packet.fields.addSize version r Locals.initial 7

def serialize (packet : PacketType) (version : Version) (r : Record)
    (b : MessageBuffer) : Option MessageBuffer := do
  let size <- packet.getSize version r
  packet.fields.serialize version r
    (b.writeHeader size (packet.getId version).toNat)

def deserialize (packet : PacketType) (version : Version) (b : MessageBuffer)
    (receivedId : Int) (r : Record) :
    Option (MessageBuffer × Int × Record) := do
  let header <- b.readHeader receivedId
  let body <- packet.fields.deserialize version header.1 r
  pure (body.1, header.2, body.2)

/-- What becomes of a packet that is sent. -/
inductive SendResult where
  | written (bytes : List UInt8)
  | aborted
deriving DecidableEq

/-- `PacketSession::sendPacket`, with what the allocated memory holds. -/
def sendPacket (packet : PacketType) (version : Version) (r : Record)
    (garbage : Nat -> UInt8) : Option SendResult := do
  let size <- packet.getSize version r
  let b <- packet.serialize version r
    (MessageBuffer.create ((List.range size).map garbage))
  if b.checkPacketFinalSize then pure (SendResult.written b.buffer)
  else pure SendResult.aborted

end PacketType

end Packet
end Rzu
