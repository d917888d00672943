import Rzu.Packet.AnnouncedSize

/-!
# Descriptions with the kinds of the types

Size and signedness do not tell floating point numbers and handles from other
members.  A description is a struct whose fields have kinds.
-/

namespace Rzu
namespace Packet

inductive Kind where
  | integer
  /-- `float` or `double`, by its bits. -/
  | floating
  /-- `ar_handle_t` -/
  | handle
deriving DecidableEq

inductive Description where
  | nil
  | field (name : String) (cond : Condition) (metatype : Metatype)
      (kind : Kind) (rest : Description)
  | object (name : String) (cond : Condition) (shape : Shape)
      (type rest : Description)

namespace Description

/-- The same fields without the kinds. -/
def struct : Description -> Struct
  | nil => Struct.nil
  | field name cond metatype _ rest =>
      Struct.field name cond metatype rest.struct
  | object name cond shape type rest =>
      Struct.object name cond shape type.struct rest.struct

/-- What holds of every field in force, those of all objects included. -/
def Every (version : Version)
    (holds : String -> Metatype -> Kind -> Record -> Prop) :
    Description -> Record -> Prop
  | nil, _ => True
  | field name cond metatype kind rest, r =>
      (cond version r = true -> holds name metatype kind r) ∧
        rest.Every version holds r
  | object name cond shape type rest, r =>
      (cond version r = true ->
        forall item, item ∈ shape.items name r ->
          type.Every version holds item) ∧
        rest.Every version holds r

end Description

end Packet
end Rzu
