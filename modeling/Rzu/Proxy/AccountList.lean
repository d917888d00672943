import Rzu.Auth.GameServerSession

/-!
# Account lists of the proxy

How the proxy between a game server and the auth server sends the accounts that
are in game: in packets of at most a fixed number of accounts.
-/

namespace Rzu
namespace Proxy

open Auth

def maxPacketSize : Nat := 16000

def maxCountPerPacket : Nat :=
  (maxPacketSize - accountListSize) / accountInfoSize

/-- An account of a packet that was just created. -/
def clearedAccountInfo : AccountInfo where
  account := Vector.replicate 61 0
  nAccountID := 0
  nPCBangUser := 0
  nEventCode := 0
  nAge := 0
  ip := Vector.replicate 46 0
  loginTime := 0

def maxCount (accountList : List AccountInfo) : Nat :=
  if accountList.length ≤ maxCountPerPacket then accountList.length
  else maxCountPerPacket

/-- `TS_MESSAGE_WNA::create`: the size of a packet with room for accounts. -/
def createdSize (nestedElementCount : Nat) : Nat :=
  accountListSize + accountInfoSize * nestedElementCount

def copyAccounts (room chunk : List AccountInfo) : List AccountInfo :=
  chunk ++ room.drop chunk.length

/-- The packet as one round sends it; the size is that of its creation. -/
def roundPacket (max : Nat) (room chunk later : List AccountInfo) :
    AccountList where
  size := createdSize max
  finalPacket := later.isEmpty
  count := UInt8.ofNat chunk.length
  accountInfo := copyAccounts room chunk
  covered := by
    rw [UInt8.toNat_ofNat', copyAccounts, List.length_append]
    exact Nat.le_trans (Nat.mod_le _ _) (Nat.le_add_right _ _)

/-- The loop over the accounts: a round sends what the packet has room for. -/
def sendRounds (max : Nat) (room rest : List AccountInfo)
    (hmax : rest ≠ [] -> 0 < max) : List AccountList :=
  roundPacket max room (rest.take max) (rest.drop max) ::
    if hlater : rest.drop max = [] then []
    else
      sendRounds max (copyAccounts room (rest.take max)) (rest.drop max)
        fun _ => hmax (fun hrest => hlater (by rw [hrest, List.drop_nil]))
termination_by rest.length
decreasing_by
  have hrest : rest ≠ [] := by
    intro heq
    exact hlater (by rw [heq, List.drop_nil])
  rw [List.length_drop]
  exact Nat.sub_lt (List.length_pos_of_ne_nil hrest) (hmax hrest)

theorem maxCount_pos {accountList : List AccountInfo}
    (h : accountList ≠ []) : 0 < maxCount accountList := by
  unfold maxCount
  split
  · exact List.length_pos_of_ne_nil h
  · decide

/-- `AuthSession::sendAccountList`. -/
def sendAccountList (accountList : List AccountInfo) : List AccountList :=
  sendRounds (maxCount accountList)
    (List.replicate (maxCount accountList) clearedAccountInfo) accountList
    maxCount_pos

theorem sendRounds_last {max : Nat} {room rest : List AccountInfo}
    (hmax : rest ≠ [] -> 0 < max) (hlast : rest.length ≤ max) :
    sendRounds max room rest hmax = [roundPacket max room rest []] := by
  rw [sendRounds, dif_pos (List.drop_eq_nil_of_le hlast),
    List.take_of_length_le hlast, List.drop_eq_nil_of_le hlast]

theorem sendRounds_more {max : Nat} {room rest : List AccountInfo}
    (hmax : rest ≠ [] -> 0 < max) (hmore : max < rest.length) :
    sendRounds max room rest hmax =
      roundPacket max room (rest.take max) (rest.drop max) ::
        sendRounds max (copyAccounts room (rest.take max)) (rest.drop max)
          fun _ => hmax (List.ne_nil_of_length_pos
            (Nat.lt_of_le_of_lt (Nat.zero_le _) hmore)) := by
  have hlater : rest.drop max ≠ [] := by
    intro heq
    exact absurd (List.drop_eq_nil_iff.mp heq) (Nat.not_le.mpr hmore)
  rw [sendRounds, dif_neg hlater]

/-!
## What the receiver makes of a round
-/

theorem maxCountPerPacket_eq : maxCountPerPacket = 128 := by
  decide

theorem roundPacket_count {max : Nat} {room chunk later : List AccountInfo}
    (h : chunk.length ≤ maxCountPerPacket) :
    (roundPacket max room chunk later).count.toNat = chunk.length := by
  rw [maxCountPerPacket_eq] at h
  rw [roundPacket, UInt8.toNat_ofNat']
  exact Nat.mod_eq_of_lt (by lia)

theorem roundPacket_accounts {max : Nat}
    {room chunk later : List AccountInfo}
    (h : chunk.length ≤ maxCountPerPacket) :
    (roundPacket max room chunk later).accountInfo.take
      (roundPacket max room chunk later).count.toNat = chunk := by
  rw [roundPacket_count h]
  exact List.take_left

theorem roundPacket_expectedSize_iff {max : Nat}
    {room chunk later : List AccountInfo}
    (h : chunk.length ≤ maxCountPerPacket) :
    (roundPacket max room chunk later).expectedSize =
      (roundPacket max room chunk later).size ↔ chunk.length = max := by
  rw [AccountList.expectedSize, roundPacket_count h]
  change chunk.length * accountInfoSize + accountListSize =
    accountListSize + accountInfoSize * max ↔ chunk.length = max
  rw [accountInfoSize, accountListSize]
  constructor
  · intro heq
    lia
  · intro heq
    lia

end Proxy
end Rzu
