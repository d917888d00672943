import Mathlib.Logic.Equiv.Basic
import Rzu.Mirror.GameData
import Rzu.Packet.Description

/-!
# Handles between the client and the server

The client keeps the handle that the player had first.  In packets that go on,
a converter that is handed to their deserialization exchanges it for the one
that the player has on the server.
-/

namespace Rzu
namespace Mirror

open Library
open Packet

/-- The server that packets are converted for. -/
structure TargetServer where
  /-- It is the one whose packets the client gets. -/
  isConnectionToServer : Bool
  localPlayerServerHandle : Handle

def convertHandle (localPlayerClientHandle : Handle)
    (targetServer : TargetServer) (val : Handle) : Handle :=
  if targetServer.isConnectionToServer = true ∧
      val = targetServer.localPlayerServerHandle then
    localPlayerClientHandle
  else if val = localPlayerClientHandle then
    targetServer.localPlayerServerHandle
  else val

theorem convertHandle_current (localPlayerClientHandle serverHandle val :
    Handle) :
    convertHandle localPlayerClientHandle ⟨true, serverHandle⟩ val =
      Equiv.swap serverHandle localPlayerClientHandle val := by
  simp [convertHandle, Equiv.swap_apply_def]

theorem convertHandle_other (localPlayerClientHandle serverHandle val :
    Handle) :
    convertHandle localPlayerClientHandle ⟨false, serverHandle⟩ val =
      if val = localPlayerClientHandle then serverHandle else val := by
  simp [convertHandle]

/--
`PacketHandleConverter::read`: a member of the packet that is a handle is
converted, other members, arrays and vectors are not read at all.
-/
def convertMember (f : Handle -> Handle) (name : String) (kind : Kind)
    (r : Record) : Metatype -> Record
  | .simple _ _ _ =>
      if kind = Kind.handle then r.setInteger name (f (r.integer name)) else r
  | _ => r

/--
The deserialization of a packet with a `PacketHandleConverter`.  It reads no
objects, but fields out of force get their defaults.
-/
def convertMembers (f : Handle -> Handle) (version : Version) :
    Description -> Record -> Record
  | .nil, r => r
  | .field name cond metatype kind rest, r =>
      convertMembers f version rest
        (if cond version r then convertMember f name kind r metatype
        else metatype.copyDefaultValue name r)
  | .object name cond shape _ rest, r =>
      convertMembers f version rest
        (if cond version r then r else shape.copyDefaultValue name r)

def convertPacketHandles (localPlayerClientHandle : Handle)
    (targetServer : TargetServer) (version : Version) (type : Description)
    (r : Record) : Record :=
  convertMembers (convertHandle localPlayerClientHandle targetServer) version
    type r

end Mirror

namespace Packet

structure Record.SameAt (name : String) (r r' : Record) : Prop where
  integer : r'.integer name = r.integer name
  array : r'.array name = r.array name
  vector : r'.vector name = r.vector name
  string : r'.string name = r.string name
  object? : r'.object? name = r.object? name
  objectArray? : r'.objectArray? name = r.objectArray? name
  objectVector : r'.objectVector name = r.objectVector name

namespace Record.SameAt

variable {name : String} {r r' r'' : Record}

theorem refl (name : String) (r : Record) : SameAt name r r :=
  ⟨rfl, rfl, rfl, rfl, rfl, rfl, rfl⟩

theorem symm (h : SameAt name r r') : SameAt name r' r :=
  ⟨h.integer.symm, h.array.symm, h.vector.symm, h.string.symm, h.object?.symm,
    h.objectArray?.symm, h.objectVector.symm⟩

theorem trans (h : SameAt name r r') (h' : SameAt name r' r'') :
    SameAt name r r'' :=
  ⟨h'.integer.trans h.integer, h'.array.trans h.array,
    h'.vector.trans h.vector, h'.string.trans h.string,
    h'.object?.trans h.object?, h'.objectArray?.trans h.objectArray?,
    h'.objectVector.trans h.objectVector⟩

end Record.SameAt

end Packet
end Rzu
