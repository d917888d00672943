import Rzu.Library.FloatText
import Rzu.Packet.Description
import Rzu.Packet.EncodedString

/-!
# Packet logs in JSON

`JSONWriter` is a serializer that writes text.  Commas and indentation are
decided by two variables which all of its functions share.
-/

namespace Rzu
namespace Packet

open Library

structure JSONWriter where
  json : List Char
  depth : Nat
  newList : Bool
  compact : Bool

namespace JSONWriter

def create (compact : Bool) : JSONWriter where
  json := ['{']
  depth := 1
  newList := true
  compact := compact

/-- `json << text` -/
def put (w : JSONWriter) (text : List Char) : JSONWriter :=
  { w with json := w.json ++ text }

def finalize (w : JSONWriter) : JSONWriter :=
  { w.put (if w.compact then ['}', '\n'] else ['\n', '}', '\n']) with
    newList := true }

def printIdent (w : JSONWriter) (addNewLine : Bool) : JSONWriter :=
  let w := if w.newList then w
    else w.put (if w.compact then [','] else [',', ' '])
  let w := if addNewLine && !w.compact then
      w.put ('\n' :: List.replicate w.depth '\t')
    else w
  { w with newList := false }

/-- With `getEndFieldSeparator`; elements of a list have no name. -/
def putFieldName (w : JSONWriter) : Option String -> JSONWriter
  | none => w
  | some fieldName =>
      w.put ('"' :: fieldName.toList ++
        (if w.compact then ['"', ':'] else ['"', ':', ' ']))

/-!
## Numbers, strings and objects
-/

/-- Primitives and encoded values, with the text of their value. -/
def write (w : JSONWriter) (fieldName : Option String) (val : List Char) :
    JSONWriter :=
  ((w.printIdent fieldName.isSome).putFieldName fieldName).put val

/-- `write("id", id)` -/
def writeHeader (w : JSONWriter) (id : UInt16) : JSONWriter :=
  w.write (some "id") (Nat.toDigits 10 id.toNat)

/-- `writeString`, `writeDynString` -/
def writeString (memory : EncodeBuffer) (w : JSONWriter) (fieldName : String)
    (val : CharString) : Option JSONWriter :=
  (writeEncodedString memory val).map fun text =>
    ((w.printIdent true).putFieldName (some fieldName)).put text

/-- What a list or an object begins with. -/
def enter (w : JSONWriter) (bracket : Char) : JSONWriter :=
  { w.put [bracket] with
    newList := true
    depth := w.depth + 1 }

/-- What a list or an object ends with. -/
def leave (w : JSONWriter) (addNewLine : Bool) (bracket : Char) :
    JSONWriter :=
  ({ w with depth := w.depth - 1, newList := true }.printIdent addNewLine).put
    [bracket]

/-- An object, by its `serialize`. -/
def writeObject (fieldName : Option String)
    (serialize : JSONWriter -> Option JSONWriter) (w : JSONWriter) :
    Option JSONWriter :=
  (serialize (((w.printIdent true).putFieldName fieldName).enter '{')).map
    fun w => w.leave true '}'

/-!
## Arrays
-/

/-- The loop over the elements; a new line begins after every 16 of them. -/
def writeElements {element : Type}
    (writeElement : element -> JSONWriter -> Option JSONWriter) :
    Nat -> List element -> JSONWriter -> Option JSONWriter
  | _, [], w => some w
  | i, x :: later, w => do
      let w <- writeElement x w
      let w := if (i + 1) % 16 = 0 ∧ later ≠ [] then
          { w.printIdent true with newList := true }
        else w
      writeElements writeElement (i + 1) later w

/-- `writeArray`, `writeDynArray` -/
def writeArray {element : Type}
    (writeElement : element -> JSONWriter -> Option JSONWriter)
    (fieldName : String) (val : List element) (w : JSONWriter) :
    Option JSONWriter :=
  (writeElements writeElement 0 val
    (((w.printIdent true).putFieldName (some fieldName)).enter '[')).map
      fun w => w.leave false ']'

end JSONWriter

/-!
## Fields
-/

def integerText (n : Int) : List Char :=
  if n < 0 then '-' :: Nat.toDigits 10 n.natAbs
  else Nat.toDigits 10 n.natAbs

/-- The format of a floating point type. -/
def floatFormat (T : IntType) : FloatFormat :=
  if T.size = 4 then FloatFormat.single else FloatFormat.double

def floatBits (T : IntType) (val : Int) : Nat := leNat (T.encode val)

def Kind.text (T : IntType) (val : Int) : Kind -> List Char
  | floating => (floatFormat T).text (floatBits T val)
  | _ => integerText val

/--
A field that holds no object.  Elements of arrays are written as they are held
by the member, counts and padding not at all.
-/
def Metatype.writeJson (memory : JSONWriter.EncodeBuffer) (name : String)
    (kind : Kind) (r : Record) (w : JSONWriter) :
    Metatype -> Option JSONWriter
  | simple type _ _ =>
      some (w.write (some name) (kind.text type (type.cast (r.integer name))))
  | array _ member n _ =>
      w.writeArray
        (fun val w => some (w.write none (kind.text member val))) name
        ((List.range n).map (r.array name))
  | dynarray _ member =>
      w.writeArray
        (fun val w => some (w.write none (kind.text member val))) name
        (r.vector name)
  | count _ _ _ => some w
  | string _ _ => w.writeString memory name (r.string name)
  | dynstring _ _ => w.writeString memory name (r.string name)
  | padmarker => some w
  | pad _ => some w
  | endstring _ _ => w.writeString memory name (r.string name)
  | endarray _ member =>
      w.writeArray
        (fun val w => some (w.write none (kind.text member val))) name
        (r.vector name)

/-- A field that holds objects. -/
def Shape.writeJson (serialize : Record -> JSONWriter -> Option JSONWriter)
    (name : String) (r : Record) (w : JSONWriter) :
    Shape -> Option JSONWriter
  | simple _ => w.writeObject (some name) (serialize (r.object name))
  | shape =>
      w.writeArray (fun item => JSONWriter.writeObject none (serialize item))
        name (shape.items name r)

namespace Description

def writeJson (memory : JSONWriter.EncodeBuffer) (version : Version) :
    Description -> Record -> JSONWriter -> Option JSONWriter
  | nil, _, w => some w
  | field name cond metatype kind rest, r, w =>
      if cond version r then do
        let w <- metatype.writeJson memory name kind r w
        rest.writeJson memory version r w
      else rest.writeJson memory version r w
  | object name cond shape type rest, r, w =>
      if cond version r then do
        let w <- shape.writeJson
          (fun item w => type.writeJson memory version item w) name r w
        rest.writeJson memory version r w
      else rest.writeJson memory version r w

/--
The text after `serialize` and `finalize`.  A packet has an identifier, and
computes its size for the header; other structs do neither.
-/
def toJson (memory : JSONWriter.EncodeBuffer) (compact : Bool)
    (version : Version) (packetId : Option UInt16) (type : Description)
    (r : Record) : Option (List Char) := do
  let w := JSONWriter.create compact
  let w <- match packetId with
    | some id =>
        (type.struct.addSize version r Locals.initial 7).map fun _ =>
          w.writeHeader id
    | none => some w
  let w <- type.writeJson memory version r w
  pure w.finalize.json

end Description

end Packet
end Rzu
