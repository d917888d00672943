import Mathlib.Data.Vector.Basic
import Rzu.Library.LittleEndian

/-!
# Stream addresses

The remote end of a connection.  Two addresses are the same when their type,
their port and the part of the address that belongs to the type are.
-/

namespace Rzu
namespace Server

open Library

inductive AddressType where
  | socketIpv4
  | socketIpv6
  | pipe
deriving DecidableEq, Repr

/-- `StreamAddress`, with the bytes of its raw address union. -/
structure StreamAddress where
  type : AddressType
  rawAddress : Vector UInt8 16
  pipeAddress : List UInt8
  port : UInt16
deriving DecidableEq

/-- Who connects, without the port: what the manager of bans calls an IP. -/
structure Host where
  type : AddressType
  bytes : List UInt8
deriving DecidableEq, Repr

namespace StreamAddress

/-- The part of an address that belongs to its type. -/
def addressBytes (address : StreamAddress) : List UInt8 :=
  match address.type with
  | .socketIpv4 => address.rawAddress.toList.take 4
  | .socketIpv6 => address.rawAddress.toList
  | .pipe => address.pipeAddress

def host (address : StreamAddress) : Host where
  type := address.type
  bytes := address.addressBytes

/-- `operator==` -/
def same (address other : StreamAddress) : Bool :=
  if address.type ≠ other.type ∨ address.port ≠ other.port then
    false
  else
    match address.type with
    | .socketIpv4 =>
        address.rawAddress.toList.take 4 == other.rawAddress.toList.take 4
    | .socketIpv6 => address.rawAddress.toList == other.rawAddress.toList
    | .pipe => address.pipeAddress == other.pipeAddress

theorem same_iff {address other : StreamAddress} :
    address.same other = true ↔
      address.host = other.host ∧ address.port = other.port := by
  rcases address with ⟨type, raw, pipe, port⟩
  rcases other with ⟨type', raw', pipe', port'⟩
  rw [same]
  by_cases hne : type ≠ type' ∨ port ≠ port'
  · rw [if_pos hne]
    constructor
    · intro h
      cases h
    · rintro ⟨hhost, hport⟩
      have htype : type = type' := congrArg Host.type hhost
      exact absurd hne (by simp [htype, show port = port' from hport])
  · rw [if_neg hne]
    simp only [not_or, not_not] at hne
    rcases hne with ⟨htype, hport⟩
    subst htype hport
    cases type with
    | socketIpv4 => simp [host, addressBytes]
    | socketIpv6 => simp [host, addressBytes, Vector.toList_inj]
    | pipe => simp [host, addressBytes]

end StreamAddress

/-- What `std::unordered_set` and `std::unordered_map` tell apart. -/
structure Endpoint where
  host : Host
  port : UInt16
deriving DecidableEq, Repr

def StreamAddress.endpoint (address : StreamAddress) : Endpoint where
  host := address.host
  port := address.port

theorem StreamAddress.endpoint_eq_iff {address other : StreamAddress} :
    address.endpoint = other.endpoint ↔ address.same other = true := by
  rw [same_iff, endpoint, endpoint, Endpoint.mk.injEq]

end Server
end Rzu
