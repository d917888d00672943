import Rzu.Packet.RoundTrip

/-!
# Packets that are sent on

A packet is read into a struct that held something else before, and the struct
may be sent on in another version.
-/

namespace Rzu
namespace Packet

/-- Two structs agree on every field that is active in both versions. -/
def Struct.AgreesInBoth (version version' : Version) :
    Struct -> Record -> Record -> Prop
  | nil, _, _ => True
  | field name cond metatype rest, r, g =>
      (cond version r = true -> cond version' r = true ->
        metatype.Agrees name r g) ∧ rest.AgreesInBoth version version' r g
  | object name cond shape type rest, r, g =>
      (cond version r = true -> cond version' r = true ->
        shape.Agrees (fun r g => type.AgreesInBoth version version' r g)
          name r g) ∧ rest.AgreesInBoth version version' r g

theorem Shape.Agrees.comp {agrees agrees' both : Record -> Record -> Prop}
    (hboth : forall r g g', agrees r g -> agrees' g g' -> both r g')
    {shape : Shape} {name : String} {r g g' : Record}
    (h : shape.Agrees agrees name r g) (h' : shape.Agrees agrees' name g g') :
    shape.Agrees both name r g' := by
  have hlist : forall {items items' items'' : List Record},
      List.Forall₂ agrees items items' ->
        List.Forall₂ agrees' items' items'' ->
          List.Forall₂ both items items'' := by
    intro items items' items'' hfirst hlast
    rw [List.forall₂_iff_get] at hfirst hlast ⊢
    refine ⟨hfirst.left.trans hlast.left, fun i hi hi'' => ?_⟩
    have hi' : i < items'.length := by
      rw [← hfirst.left]
      exact hi
    exact hboth _ _ _ (hfirst.right i hi hi') (hlast.right i hi' hi'')
  cases shape with
  | simple defaultval => exact hboth _ _ _ h h'
  | array n =>
      intro i hi
      exact hboth _ _ _ (h i hi) (h' i hi)
  | dynarray => exact hlist h h'
  | endarray => exact hlist h h'

theorem Struct.Agrees.comp {version version' : Version} {type : Struct}
    (hversion : type.VersionConditions) {r g g' : Record}
    (h : type.Agrees version r g) (h' : type.Agrees version' g g') :
    type.AgreesInBoth version version' r g' := by
  induction type generalizing r g g' with
  | nil => trivial
  | field name cond metatype rest ih =>
      refine ⟨fun hactive hactive' => ?_, ih hversion.right h.right h'.right⟩
      rw [hversion.left version' r g] at hactive'
      exact (h.left hactive).trans (h'.left hactive')
  | object name cond shape type rest ihtype ihrest =>
      refine ⟨fun hactive hactive' => ?_,
        ihrest hversion.right.right h.right h'.right⟩
      rw [hversion.left version' r g] at hactive'
      refine Shape.Agrees.comp ?_ (h.left hactive) (h'.left hactive')
      intro item item' item'' hitem hitem'
      exact ihtype hversion.right.left hitem hitem'

namespace PacketType

/-- Two receivers of what is sent from two buffers make the same of it. -/
def ReceivedAlike (packet : PacketType) (version : Version) (r g g' : Record)
    (garbage garbage' : Nat -> UInt8) : Prop :=
  exists bytes b b' id id' found found',
    packet.sendPacket version r garbage = some (SendResult.written bytes) ∧
    packet.sendPacket version r garbage' = some (SendResult.written bytes) ∧
    packet.deserialize version (MessageBuffer.create bytes) 0 g =
      some (b, id, found) ∧
    packet.deserialize version (MessageBuffer.create bytes) 0 g' =
      some (b', id', found') ∧
    packet.fields.Agrees version found found'

/-- A packet is received, sent on in another version and received again. -/
def SentOn (packet : PacketType) (version version' : Version)
    (r g g' : Record) (garbage garbage' : Nat -> UInt8) : Prop :=
  exists bytes b id found bytes' b' id' found',
    packet.sendPacket version r garbage = some (SendResult.written bytes) ∧
    packet.deserialize version (MessageBuffer.create bytes) 0 g =
      some (b, id, found) ∧
    packet.sendPacket version' found garbage' =
      some (SendResult.written bytes') ∧
    packet.deserialize version' (MessageBuffer.create bytes') 0 g' =
      some (b', id', found') ∧
    packet.fields.AgreesInBoth version version' r found'

variable {packet : PacketType} {version version' : Version} {r : Record}

/--
Whatever receivers held before, and whatever the buffers of the sender held,
the same fields are received, also where a default spoils one of them.
-/
theorem received_alike (hdeclared : packet.fields.WellDeclared)
    (hsendable : packet.Sendable version r) (g g' : Record)
    (garbage garbage' : Nat -> UInt8) :
    packet.ReceivedAlike version r g g' garbage garbage' := by
  rcases hsendable.sent garbage with ⟨chunks, hchunks, hsent, hreceived⟩
  rcases hsendable.sent garbage' with ⟨chunks', hchunks', hsent', -⟩
  rw [hchunks] at hchunks'
  cases hchunks'
  rcases hreceived g (hdeclared.version.same version r g) with
    ⟨b, id, hread, -⟩
  rcases hreceived g' (hdeclared.version.same version r g') with
    ⟨b', id', hread', -⟩
  exact ⟨_, b, b', id, id', _, _, hsent, hsent', hread, hread',
    Struct.overwrite_agrees version hdeclared.bounded hdeclared.version r g g'⟩

end PacketType

/-! ## Where the wider line is active -/

section Wide

variable {version : Version} {r : Record}

theorem serverListPacket_sendable (hwide : atLeast EPIC_9_6_5 version = true)
    (hindex : r.integer "last_login_server_idx" = 5)
    (hsizes : serverListPacket.fieldSizes version r = [4]) :
    serverListPacket.Sendable version r := by
  have hrange : serverListPacket.fields.InRange version r := by
    refine ⟨fun hactive => ?_, fun _ => ?_, trivial⟩
    · simp [hwide] at hactive
    · change _ ∧ _
      simp only [hindex]
      decide +kernel
  exact {
    markers := serverListPacket_declared.markers
    endsLast := (serverListPacket_declared.bounded.boundedIn _ r).endsLast
    counted := Struct.counted_of_counts serverListPacket_declared.counts
      (fun c hc => nomatch hc) hrange
    pads := by
      simp [Struct.PadsKnown, serverListPacket, hwide, Metatype.PadKnown]
    range := hrange
    short := by
      rw [hsizes]
      decide
    total := by
      rw [hsizes]
      decide }

theorem serverListPacket_unspoilt (hwide : atLeast EPIC_9_6_5 version = true) :
    serverListPacket.fields.Unspoilt version r := by
  refine ⟨fun hactive => ?_, fun _ => ?_, trivial⟩
  · simp [hwide] at hactive
  · simp [Metatype.Agrees, serverListPacket, Struct.overwrite, hwide,
      Metatype.restore, Metatype.copyDefaultValue, Record.setInteger]

end Wide

theorem lastServer_sendable :
    serverListPacket.Sendable 0x090700 (lastServer 5) :=
  serverListPacket_sendable (by decide) (by decide +kernel) (by decide +kernel)

theorem received_alike_lastServer :
    serverListPacket.ReceivedAlike 0x090700 (lastServer 5) Record.zero
      (lastServer 3) (fun _ => 0) (fun _ => 1) :=
  PacketType.received_alike serverListPacket_declared lastServer_sendable
    _ _ _ _

end Packet
end Rzu
