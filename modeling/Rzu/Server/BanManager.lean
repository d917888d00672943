import Mathlib.Logic.Function.Basic
import Rzu.Server.StreamAddress

/-!
# The manager of bans

`BanManager` decides which connections are accepted.  Its limits are those of
the configuration when the file of bans was last loaded.
-/

namespace Rzu
namespace Server

/-- `BanManager::IpData` -/
structure IpData where
  connectedClients : Int
  connectionThisDay : Int
deriving DecidableEq, Repr

/--
`BanManager`.  `announced` only records the addresses that the manager logs as
banned when it bans them itself.
-/
structure BanManager where
  maxConnectionPerDayPerIp : Int
  maxClientPerIp : Int
  bannedIps : List Endpoint
  ipDatas : Endpoint -> Option IpData
  announced : List StreamAddress

structure BanConfig where
  maxConnectionPerDayPerIp : Int
  maxClientPerIp : Int
deriving DecidableEq, Repr

/-!
## The file of bans
-/

/-- `Utils::ishex` -/
def ishex (c : UInt8) : Bool :=
  48 ≤ c && c ≤ 57 || 97 ≤ c && c ≤ 102 || 65 ≤ c && c ≤ 70

/-- One call of `fgets` with a buffer of `size + 1` bytes. -/
def fgets (size : Nat) (file : List UInt8) : List UInt8 × List UInt8 :=
  match size, file with
  | 0, file => ([], file)
  | _ + 1, [] => ([], [])
  | size + 1, c :: rest =>
      if c = 10 then ([c], rest)
      else (c :: (fgets size rest).1, (fgets size rest).2)

theorem fgets_length (size : Nat) (file : List UInt8) :
    (fgets size file).1.length + (fgets size file).2.length = file.length := by
  induction size generalizing file with
  | zero => rw [fgets, List.length_nil, Nat.zero_add]
  | succ size ih =>
      cases file with
      | nil => rfl
      | cons c rest =>
          rw [fgets]
          split
          · rw [List.length_singleton, List.length_cons, Nat.add_comm]
          · have hrest := ih rest
            rw [List.length_cons, List.length_cons]
            lia

/-- The lines that `fgets` cuts a file into, 511 bytes at most each. -/
def fileLines (file : List UInt8) : List (List UInt8) :=
  match file with
  | [] => []
  | c :: rest =>
      (fgets 511 (c :: rest)).1 :: fileLines (fgets 511 (c :: rest)).2
termination_by file.length
decreasing_by
  have hlength := fgets_length 511 (c :: rest)
  have hpos : 0 < (fgets 511 (c :: rest)).1.length := by
    rw [fgets]
    split
    · exact Nat.one_pos
    · exact Nat.succ_pos _
  lia

/-- The characters at the start of a line that may belong to an address. -/
def lineAddress (line : List UInt8) : List UInt8 :=
  line.takeWhile fun c => ishex c || c == 46 || c == 58

/-- `uv_inet_pton` for both families: the address in network order. -/
structure Inet where
  pton4 : List UInt8 -> Option (List UInt8)
  pton6 : List UInt8 -> Option (List UInt8)

/-- `StreamAddress::setFromName` -/
def setFromName (inet : Inet) (ipStr : List UInt8) : Option Host :=
  -- The prefix is "pipe:".
  if ipStr.take 5 = [112, 105, 112, 101, 58] then
    some { type := .pipe, bytes := ipStr.drop 5 }
  else if ipStr.contains 58 then
    (inet.pton6 ipStr).map fun bytes =>
      { type := .socketIpv6, bytes := bytes }
  else
    (inet.pton4 ipStr).map fun bytes =>
      { type := .socketIpv4, bytes := bytes }

def lineBan (inet : Inet) (line : List UInt8) : Option Endpoint :=
  if lineAddress line = [] then none
  else
    (setFromName inet (lineAddress line)).map fun host =>
      { host := host, port := 0 }

def fileBans (inet : Inet) (file : List UInt8) : List Endpoint :=
  (fileLines file).filterMap (lineBan inet)

namespace BanManager

/-- The constructor. -/
def create (config : BanConfig) : BanManager where
  maxConnectionPerDayPerIp := config.maxConnectionPerDayPerIp
  maxClientPerIp := config.maxClientPerIp
  bannedIps := []
  ipDatas := fun _ => none
  announced := []

/-- `loadFile`, with the bytes of the file if it can be opened. -/
def loadFile (inet : Inet) (m : BanManager) (config : BanConfig)
    (file : Option (List UInt8)) : BanManager :=
  let cached : BanManager :=
    { m with
      maxConnectionPerDayPerIp := config.maxConnectionPerDayPerIp
      maxClientPerIp := config.maxClientPerIp }
  match file with
  | none => cached
  | some file => { cached with bannedIps := fileBans inet file }

/-- `onTimerExpire` -/
def onTimerExpire (m : BanManager) : BanManager :=
  { m with
    ipDatas := fun endpoint =>
      (m.ipDatas endpoint).map fun data =>
        { data with connectionThisDay := 0 } }

/-- `operator[]`: an entry that is not there counts nothing yet. -/
def ipData (m : BanManager) (endpoint : Endpoint) : IpData :=
  (m.ipDatas endpoint).getD { connectedClients := 0, connectionThisDay := 0 }

def setIpData (m : BanManager) (endpoint : Endpoint) (data : IpData) :
    BanManager :=
  { m with ipDatas := Function.update m.ipDatas endpoint (some data) }

@[simp]
theorem ipData_setIpData_self (m : BanManager) (endpoint : Endpoint)
    (data : IpData) : (m.setIpData endpoint data).ipData endpoint = data := by
  simp only [ipData, setIpData, Function.update_self, Option.getD_some]

theorem ipData_setIpData_ne (m : BanManager) {endpoint other : Endpoint}
    (data : IpData) (h : other ≠ endpoint) :
    (m.setIpData endpoint data).ipData other = m.ipData other := by
  simp only [ipData, setIpData, Function.update_of_ne h]

theorem ipData_onTimerExpire (m : BanManager) (endpoint : Endpoint) :
    m.onTimerExpire.ipData endpoint =
      { m.ipData endpoint with connectionThisDay := 0 } := by
  simp only [ipData, onTimerExpire]
  cases m.ipDatas endpoint with
  | none => rfl
  | some data => rfl

/-- `checkAcceptNewClient` -/
def checkAcceptNewClient (m : BanManager) (ip : StreamAddress) :
    Bool × BanManager :=
  -- The port is not used to check bans.
  let key : Endpoint := { host := ip.host, port := 0 }
  if key ∈ m.bannedIps then
    (false, m)
  else if m.maxConnectionPerDayPerIp = 0 ∧ m.maxClientPerIp = 0 then
    (true, m)
  else
    let data := m.ipData key
    if 0 < m.maxConnectionPerDayPerIp ∧
        m.maxConnectionPerDayPerIp ≤ data.connectionThisDay then
      (false,
        { m.setIpData key data with
          bannedIps := key :: m.bannedIps
          announced := ip :: m.announced })
    else
      let counted :=
        { data with connectionThisDay := data.connectionThisDay + 1 }
      if 0 < m.maxClientPerIp ∧
          m.maxClientPerIp ≤ counted.connectedClients then
        (false, m.setIpData key counted)
      else
        (true,
          m.setIpData key
            { counted with
              connectedClients := counted.connectedClients + 1 })

def counts (m : BanManager) (host : Host) : IpData :=
  m.ipData { host := host, port := 0 }

/-- Why a connection is accepted or refused. -/
inductive Check (m : BanManager) (ip : StreamAddress) :
    Bool × BanManager -> Prop where
  | banned
      (hbanned : ({ host := ip.host, port := 0 } : Endpoint) ∈ m.bannedIps) :
      Check m ip (false, m)
  | unlimited
      (hfree : ({ host := ip.host, port := 0 } : Endpoint) ∉ m.bannedIps)
      (hday : m.maxConnectionPerDayPerIp = 0)
      (hclients : m.maxClientPerIp = 0) : Check m ip (true, m)
  | tooMany
      (hfree : ({ host := ip.host, port := 0 } : Endpoint) ∉ m.bannedIps)
      (hlimit : 0 < m.maxConnectionPerDayPerIp)
      (hday : m.maxConnectionPerDayPerIp ≤
        (m.counts ip.host).connectionThisDay) :
      Check m ip (false,
        { m.setIpData { host := ip.host, port := 0 } (m.counts ip.host) with
          bannedIps := { host := ip.host, port := 0 } :: m.bannedIps
          announced := ip :: m.announced })
  | full
      (hfree : ({ host := ip.host, port := 0 } : Endpoint) ∉ m.bannedIps)
      (hlimit : 0 < m.maxClientPerIp)
      (hclients : m.maxClientPerIp ≤ (m.counts ip.host).connectedClients) :
      Check m ip (false,
        m.setIpData { host := ip.host, port := 0 }
          { m.counts ip.host with
            connectionThisDay := (m.counts ip.host).connectionThisDay + 1 })
  | counted
      (hfree : ({ host := ip.host, port := 0 } : Endpoint) ∉ m.bannedIps)
      (hlimited : m.maxConnectionPerDayPerIp ≠ 0 ∨ m.maxClientPerIp ≠ 0)
      (hday : m.maxConnectionPerDayPerIp ≤ 0 ∨
        (m.counts ip.host).connectionThisDay < m.maxConnectionPerDayPerIp)
      (hclients : m.maxClientPerIp ≤ 0 ∨
        (m.counts ip.host).connectedClients < m.maxClientPerIp) :
      Check m ip (true,
        m.setIpData { host := ip.host, port := 0 }
          { connectedClients := (m.counts ip.host).connectedClients + 1
            connectionThisDay := (m.counts ip.host).connectionThisDay + 1 })

theorem checkAcceptNewClient_check (m : BanManager) (ip : StreamAddress) :
    Check m ip (m.checkAcceptNewClient ip) := by
  rw [checkAcceptNewClient]
  simp only
  split
  · rename_i hbanned
    exact Check.banned hbanned
  · rename_i hfree
    split
    · rename_i hzero
      exact Check.unlimited hfree hzero.left hzero.right
    · rename_i hlimited
      split
      · rename_i hmany
        exact Check.tooMany hfree hmany.left hmany.right
      · rename_i hfew
        split
        · rename_i hfull
          exact Check.full hfree hfull.left hfull.right
        · rename_i hroom
          simp only [not_and_or] at hlimited hfew hroom
          simp only [Int.not_lt, Int.not_le] at hfew hroom
          exact Check.counted hfree hlimited hfew hroom

/-- `closedClient` -/
def closedClient (m : BanManager) (ip : StreamAddress) : BanManager :=
  let key : Endpoint := { host := ip.host, port := 0 }
  match m.ipDatas key with
  | none => m
  | some data =>
      if 0 < data.connectedClients then
        m.setIpData key
          { data with connectedClients := data.connectedClients - 1 }
      else
        m

/-- `banIp` -/
def banIp (m : BanManager) (ip : StreamAddress) : BanManager :=
  { m with
    bannedIps := ip.endpoint :: m.bannedIps
    announced := ip :: m.announced }

end BanManager

end Server
end Rzu
