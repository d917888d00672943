import Rzu.Library.LittleEndian
import Rzu.Library.Run
import Rzu.Packet.Declaration

/-!
# Selecting a server

A client session keeps the servers of the last list and the index of the one
that it has selected.  The result of a selection looks the server up by that
index, whenever the server sends it.
-/

namespace Rzu
namespace Client

open Library Packet

inductive CipherMethod where
  | des
  | rsaAes
deriving DecidableEq

structure ServerInfo where
  serverId : UInt16
  serverName : CharString
  serverScreenshotUrl : CharString
  serverIp : CharString
  serverPort : Int
  userRatio : UInt16
deriving DecidableEq

structure ServerConnectionInfo where
  id : UInt16
  ip : CharString
  port : UInt16
deriving DecidableEq

/-- `TS_SERVER_INFO`, as far as it is read. -/
structure PacketServerInfo where
  serverIdx : UInt32
  serverName : CharString
  serverScreenshotUrl : CharString
  serverIp : CharString
  serverPort : Int
  userRatio : UInt16

/-- `TS_AC_SERVER_LIST` -/
structure ServerListPacket where
  lastLoginServerIdx : UInt32
  servers : List PacketServerInfo

/-- `TS_AC_SELECT_SERVER`, as far as it is read. -/
structure SelectServerPacket where
  oneTimeKey : UInt64
  encryptedDataSize : Int
  encryptedData : List UInt8

/-- The part of `ClientAuthSession` that is about servers. -/
structure ServerSelection where
  cipherMethod : CipherMethod
  aesKey : List UInt8
  hasGameSession : Bool
  serverList : List ServerConnectionInfo
  selectedServer : Int
  oneTimePassword : UInt64
  normalDisconnect : Bool
  /-- An exception has left a handler; nothing happens after that. -/
  threw : Bool

namespace ServerSelection

/-- What a session does besides changing its state. -/
inductive Action where
  /-- `TS_CA_SELECT_SERVER` is sent. -/
  | selectServer (serverIdx : UInt16)
  | onServerList (servers : List ServerInfo) (lastSelectedServerId : UInt16)
  | connectGame (ip : CharString) (port : UInt16)
  | closeSession
  | onAuthDisconnected
deriving DecidableEq

/-- The constructor leaves some of the members as they happen to be. -/
def create (hasGameSession : Bool) (cipherMethod : CipherMethod)
    (selectedServer : Int) (oneTimePassword : UInt64)
    (normalDisconnect : Bool) : ServerSelection where
  cipherMethod := cipherMethod
  aesKey := []
  hasGameSession := hasGameSession
  serverList := []
  selectedServer := selectedServer
  oneTimePassword := oneTimePassword
  normalDisconnect := normalDisconnect
  threw := false

def connect (s : ServerSelection) (packetVersion : Version) :
    ServerSelection :=
  { s with
    cipherMethod :=
      if atLeast EPIC_8_1_1_RSA packetVersion then CipherMethod.rsaAes
      else CipherMethod.des
    selectedServer := 0
    normalDisconnect := false }

/-- The index of the first server with an identifier, from index `i` on. -/
def findServer (serverId : UInt16) :
    Nat -> List ServerConnectionInfo -> Option Nat
  | _, [] => none
  | i, server :: servers =>
      if server.id = serverId then some i
      else findServer serverId (i + 1) servers

def selectServer (s : ServerSelection) (serverId : UInt16) :
    ServerSelection × List Action :=
  match findServer serverId 0 s.serverList with
  | some i => ({ s with selectedServer := i }, [Action.selectServer serverId])
  | none => ({ s with selectedServer := -1 }, [])

def serverInfo (server : PacketServerInfo) : ServerInfo where
  serverId := server.serverIdx.toUInt16
  serverName := server.serverName
  serverScreenshotUrl := server.serverScreenshotUrl
  serverIp := server.serverIp
  serverPort := server.serverPort
  userRatio := server.userRatio

def connectionInfo (server : ServerInfo) : ServerConnectionInfo where
  id := server.serverId
  ip := server.serverIp
  port := UInt16.ofInt server.serverPort

def lastLogin (lastLoginServerIdx : UInt32) :
    Nat -> List PacketServerInfo -> Nat -> Nat
  | _, [], selectedServer => selectedServer
  | i, server :: servers, selectedServer =>
      lastLogin lastLoginServerIdx (i + 1) servers
        (if server.serverIdx = lastLoginServerIdx then i else selectedServer)

def onPacketServerList (s : ServerSelection) (packet : ServerListPacket) :
    ServerSelection × List Action :=
  let serverList := packet.servers.map serverInfo
  ({ s with
      serverList := serverList.map connectionInfo
      selectedServer := lastLogin packet.lastLoginServerIdx 0 packet.servers
        0 },
    [Action.onServerList serverList packet.lastLoginServerIdx.toUInt16])

/-- `vector::at` with an `int`: a negative one is a large index. -/
def at? (serverList : List ServerConnectionInfo) (i : Int) :
    Option ServerConnectionInfo :=
  if 0 ≤ i then serverList[i.toNat]? else none

section Decrypt

-- `AesPasswordCipher::decrypt` with a key; nothing, if it fails
variable (decrypt : List UInt8 -> List UInt8 -> Option (List UInt8))

def readOneTimePassword (s : ServerSelection) (packet : SelectServerPacket) :
    Option UInt64 :=
  match s.cipherMethod with
  | CipherMethod.des => some packet.oneTimeKey
  | CipherMethod.rsaAes => do
      -- a negative size is a large one
      let encryptedSize :=
        if 0 ≤ packet.encryptedDataSize then packet.encryptedDataSize.toNat
        else 24
      let decryptedData <- decrypt s.aesKey
        (packet.encryptedData.take (min encryptedSize 24))
      if decryptedData.length < 8 then none
      else pure (UInt64.ofNat (leNat (decryptedData.take 8)))

def onPacketSelectServerResult (s : ServerSelection)
    (packet : SelectServerPacket) : ServerSelection × List Action :=
  match s.readOneTimePassword decrypt packet with
  | none => (s, [Action.closeSession])
  | some oneTimePassword =>
      match at? s.serverList s.selectedServer with
      | none => ({ s with oneTimePassword := oneTimePassword, threw := true },
          [])
      | some selectedServerInfo =>
          ({ s with
              oneTimePassword := oneTimePassword
              normalDisconnect := true
              serverList := [] },
            (if s.hasGameSession = true then
              [Action.connectGame selectedServerInfo.ip
                selectedServerInfo.port] else []) ++ [Action.closeSession])

/-- What the user of the session and the server do. -/
inductive Event where
  | connect (packetVersion : Version)
  | selectServer (serverId : UInt16)
  | onPacketServerList (packet : ServerListPacket)
  | onPacketSelectServerResult (packet : SelectServerPacket)
  /-- A key was decrypted; if its size is wrong, the session is closed. -/
  | onPacketAuthPasswordKey (aesKey : List UInt8)
  | onDisconnected
  /-- Names and results do not touch what is kept here. -/
  | onPacketResult

def next (s : ServerSelection) : Event -> ServerSelection × List Action
  | Event.connect packetVersion => (s.connect packetVersion, [])
  | Event.selectServer serverId => s.selectServer serverId
  | Event.onPacketServerList packet => s.onPacketServerList packet
  | Event.onPacketSelectServerResult packet =>
      s.onPacketSelectServerResult decrypt packet
  | Event.onPacketAuthPasswordKey aesKey =>
      ({ s with aesKey := aesKey },
        if aesKey.length = 32 then [] else [Action.closeSession])
  | Event.onDisconnected =>
      if s.normalDisconnect = false ∨ s.hasGameSession = false then
        (s, [Action.onAuthDisconnected])
      else ({ s with normalDisconnect := false }, [])
  | Event.onPacketResult => (s, [])

def Step (s : ServerSelection) (event : Event) (s' : ServerSelection) :
    Prop :=
  s.threw = false ∧ (s.next decrypt event).1 = s'

def Accesses (s : ServerSelection) : Event -> Prop
  | Event.onPacketSelectServerResult packet =>
      (s.readOneTimePassword decrypt packet).isSome = true
  | _ => False

/-- The index is one of the list, if the list is accessed by it. -/
def AccessInRange (s : ServerSelection) (event : Event)
    (_ : ServerSelection) : Prop :=
  s.Accesses decrypt event ->
    0 ≤ s.selectedServer ∧ s.selectedServer < s.serverList.length

/--
A result is accepted while there is no list, or after a selection that did not
find its server.
-/
def NothingSelected (s : ServerSelection) (event : Event) : Prop :=
  s.Accesses decrypt event ∧ (s.serverList = [] ∨ s.selectedServer = -1)

/-!
## The index
-/

/-- The index is one of the list, or says that there is none. -/
def Selects (s : ServerSelection) : Prop :=
  s.serverList = [] ∨ s.selectedServer = -1 ∨
    0 ≤ s.selectedServer ∧ s.selectedServer < s.serverList.length

theorem findServer_lt {serverId : UInt16} {i j : Nat}
    {servers : List ServerConnectionInfo}
    (h : findServer serverId i servers = some j) :
    j < i + servers.length := by
  induction servers generalizing i with
  | nil => cases h
  | cons server servers ih =>
      rw [findServer] at h
      split at h
      · cases h
        exact Nat.lt_add_of_pos_right (Nat.succ_pos _)
      · have hlt := ih h
        rw [List.length_cons]
        lia

theorem lastLogin_lt (lastLoginServerIdx : UInt32) (i selectedServer : Nat)
    (servers : List PacketServerInfo)
    (h : selectedServer < i + servers.length ∨ servers = []) :
    lastLogin lastLoginServerIdx i servers selectedServer <
      i + servers.length ∨ servers = [] := by
  induction servers generalizing i selectedServer with
  | nil => exact Or.inr rfl
  | cons server servers ih =>
      left
      have hbound : selectedServer < i + (servers.length + 1) := by
        rcases h with h | h
        · exact h
        · cases h
      rw [lastLogin, List.length_cons]
      cases servers with
      | nil =>
          rw [lastLogin]
          split
          · exact Nat.lt_succ_self i
          · exact hbound
      | cons server' servers =>
          have hlater := ih (i + 1)
            (if server.serverIdx = lastLoginServerIdx then i
              else selectedServer) (Or.inl (by
                split
                · lia
                · lia))
          rcases hlater with hlater | hlater
          · lia
          · cases hlater

theorem selects_selectServer (s : ServerSelection) (serverId : UInt16) :
    Selects (s.selectServer serverId).1 := by
  rw [selectServer]
  cases hfind : findServer serverId 0 s.serverList with
  | none => exact Or.inr (Or.inl rfl)
  | some i =>
      have hlt := findServer_lt hfind
      rw [Nat.zero_add] at hlt
      exact Or.inr (Or.inr ⟨Int.natCast_nonneg i, Int.ofNat_lt.mpr hlt⟩)

theorem selects_onPacketServerList (s : ServerSelection)
    (packet : ServerListPacket) : Selects (s.onPacketServerList packet).1 := by
  have hlength : (s.onPacketServerList packet).1.serverList.length =
      packet.servers.length := by
    rw [onPacketServerList, List.length_map, List.length_map]
  by_cases hnone : packet.servers = []
  · left
    apply List.eq_nil_of_length_eq_zero
    rw [hlength, hnone, List.length_nil]
  · right
    right
    rw [hlength]
    have hpos : 0 < packet.servers.length := List.length_pos_iff.mpr hnone
    have hlast := lastLogin_lt packet.lastLoginServerIdx 0 0 packet.servers
      (Or.inl (by lia))
    rw [Nat.zero_add] at hlast
    exact ⟨Int.natCast_nonneg _, Int.ofNat_lt.mpr (hlast.resolve_right hnone)⟩

theorem selects_connect {s : ServerSelection} (packetVersion : Version) :
    Selects (s.connect packetVersion) := by
  by_cases hnone : s.serverList = []
  · exact Or.inl hnone
  · exact Or.inr (Or.inr ⟨Int.le_refl 0,
      Int.ofNat_lt.mpr (List.length_pos_iff.mpr hnone)⟩)

theorem selects_onPacketSelectServerResult {s : ServerSelection}
    (h : Selects s) (packet : SelectServerPacket) :
    Selects (s.onPacketSelectServerResult decrypt packet).1 := by
  rw [onPacketSelectServerResult]
  split
  · exact h
  · split
    · exact h
    · exact Or.inl rfl

theorem selects_step {s s' : ServerSelection} {event : Event}
    (h : Selects s) (hstep : Step decrypt s event s') : Selects s' := by
  rcases hstep with ⟨-, heq⟩
  rw [← heq]
  cases event with
  | connect packetVersion => exact selects_connect packetVersion
  | selectServer serverId => exact selects_selectServer s serverId
  | onPacketServerList packet => exact selects_onPacketServerList s packet
  | onPacketSelectServerResult packet =>
      exact selects_onPacketSelectServerResult decrypt h packet
  | onPacketAuthPasswordKey aesKey => exact h
  | onDisconnected =>
      rw [next]
      split
      · exact h
      · exact h
  | onPacketResult => exact h

theorem step_deterministic : Deterministic (Step decrypt) := by
  intro s event s' s'' h h'
  rw [← h.right, ← h'.right]

/--
All along a run the list is accessed in range exactly if no result is accepted
while there is no list or after a selection that did not find its server.
-/
theorem accessesInRange_iff {hasGameSession : Bool}
    {cipherMethod : CipherMethod} {selectedServer : Int}
    {oneTimePassword : UInt64} {normalDisconnect : Bool}
    {history : List Event} {s : ServerSelection}
    (hrun : Run (Step decrypt) (create hasGameSession cipherMethod
      selectedServer oneTimePassword normalDisconnect) history s) :
    AtEachStep (Step decrypt) (create hasGameSession cipherMethod
        selectedServer oneTimePassword normalDisconnect)
        (AccessInRange decrypt) history ↔
      Avoids (Step decrypt) (create hasGameSession cipherMethod
        selectedServer oneTimePassword normalDisconnect)
        (NothingSelected decrypt) history := by
  have hstart : Selects (create hasGameSession cipherMethod selectedServer
      oneTimePassword normalDisconnect) := Or.inl rfl
  apply atEachStep_iff_avoids (step_deterministic decrypt) hstart _ _ _ hrun
  · intro s event s' h hstep _
    exact selects_step decrypt h hstep
  · intro s event s' h hstep hselected haccess
    rcases h with hnone | hmissing | hrange
    · exact absurd ⟨haccess, Or.inl hnone⟩ hselected
    · exact absurd ⟨haccess, Or.inr hmissing⟩ hselected
    · exact hrange
  · rintro s event s' h hstep ⟨haccess, hnothing⟩ hrange
    rcases hrange haccess with ⟨hnonneg, hlt⟩
    rcases hnothing with hnone | hmissing
    · rw [hnone, List.length_nil] at hlt
      lia
    · lia

end Decrypt

/-- A decryption that never succeeds, for a session that needs none. -/
def noDecrypt (_ _ : List UInt8) : Option (List UInt8) := none

def loginEvents : List Event :=
  [Event.onPacketServerList
      { lastLoginServerIdx := 1
        servers := [{ serverIdx := 1, serverName := [83], serverIp := [49]
                      serverScreenshotUrl := [], serverPort := 4515
                      userRatio := 0 }] },
    Event.selectServer 1,
    Event.onPacketSelectServerResult
      { oneTimeKey := 7, encryptedDataSize := 0, encryptedData := [] }]

theorem accessesInRange_iff_login :
    AtEachStep (Step noDecrypt) (create true CipherMethod.des 0 0 false)
        (AccessInRange noDecrypt) loginEvents ↔
      Avoids (Step noDecrypt) (create true CipherMethod.des 0 0 false)
        (NothingSelected noDecrypt) loginEvents := by
  apply accessesInRange_iff noDecrypt
  exact Run.snoc (Run.snoc (Run.snoc Run.nil ⟨rfl, rfl⟩) ⟨rfl, rfl⟩)
    ⟨rfl, rfl⟩

/-- A result that comes before any list. -/
theorem not_accessesInRange_early :
    ¬forall decrypt history s,
      Run (Step decrypt) (create true CipherMethod.des 0 0 false) history s ->
        AtEachStep (Step decrypt) (create true CipherMethod.des 0 0 false)
          (AccessInRange decrypt) history := by
  intro h
  let event := Event.onPacketSelectServerResult
    { oneTimeKey := 7, encryptedDataSize := 0, encryptedData := [] }
  have hstep : Step noDecrypt (create true CipherMethod.des 0 0 false) event
      ((create true CipherMethod.des 0 0 false).next noDecrypt event).1 :=
    ⟨rfl, rfl⟩
  have hrange := h noDecrypt [event] _ (Run.snoc Run.nil hstep) [] event [] _
    _ rfl Run.nil hstep rfl
  exact absurd hrange.right (by decide)

end ServerSelection

end Client
end Rzu
