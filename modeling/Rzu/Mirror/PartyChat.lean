import Rzu.Core.StringSplit
import Rzu.Library.Numeral
import Rzu.Mirror.GameData

/-!
# Party messages

The server tells about parties in chat messages: a command and its arguments,
with `|` in between.
-/

namespace Rzu
namespace Mirror

open Library
open Library.Numeral
open Core
open Packet

def ascii (text : String) : CharString :=
  text.toList.map fun c => UInt8.ofNat c.toNat

/-- The delimiter `|`. -/
def bar : UInt8 := 124

def CHAT_PARTY_SYSTEM : Int := 0x64
def CHAT_RAID_SYSTEM : Int := 0x82

def partyMessage (message : CharString) : Record :=
  ((Record.zero.setString "szSender" (ascii "@PARTY")).setInteger
    "type" CHAT_PARTY_SYSTEM).setString "message" message

/-- `args[i]`. -/
def arg (args : List CharString) (i : Nat) : Except Fault CharString :=
  match args[i]? with
  | some field => Except.ok field
  | none => Except.error Fault.outOfRange

/-- The nine arguments about a member, the first at some index. -/
def readMember (args : List CharString) (first : Nat) :
    Except Fault MemberInfo := do
  let handle <- arg args first
  let name <- arg args (first + 1)
  let level <- arg args (first + 2)
  let jobId <- arg args (first + 3)
  let hpPercentage <- arg args (first + 4)
  let mpPercentage <- arg args (first + 5)
  let x <- arg args (first + 6)
  let y <- arg args (first + 7)
  let creature <- arg args (first + 8)
  pure
    { handle := strtouint handle
      name := name
      level := atoi level
      jobId := atoi jobId
      hpPercentage := atoi hpPercentage
      mpPercentage := atoi mpPercentage
      x := atoi x
      y := atoi y
      creature := atoi creature }

namespace PartyInfo

def updateMember (party : PartyInfo) (name : CharString)
    (change : MemberInfo -> MemberInfo) : PartyInfo :=
  match party.membersByName.lookup name with
  | none => party
  | some member =>
      { party with
        membersByName := party.membersByName.insert name (change member) }

def setMember (party : PartyInfo) (member : MemberInfo) : PartyInfo :=
  { party with
    membersByName := party.membersByName.insert member.name member }

def eraseMember (party : PartyInfo) (name : CharString) : PartyInfo :=
  { party with membersByName := party.membersByName.erase name }

def setSummons (party : PartyInfo) (playerHandle : Int)
    (summons : SummonInfo) : PartyInfo :=
  { party with
    summonByPlayerHandle :=
      party.summonByPlayerHandle.insert playerHandle summons }

/-- Entries for a whole message; only two of the three members are set. -/
def readSummons (args : List CharString) (party : PartyInfo) (i : Nat) :
    Except Fault PartyInfo := do
  let playerHandle <- arg args (3 + i * 3)
  let mainSummonHandle <- arg args (4 + i * 3)
  let subSummonHandle <- arg args (5 + i * 3)
  let known := (party.summonByPlayerHandle.lookup
    (strtouint playerHandle)).getD SummonInfo.create
  pure (party.setSummons (strtouint playerHandle)
    { known with
      mainSummonHandle := strtouint mainSummonHandle
      subSummonHandle := strtouint subSummonHandle })

def readMembers (args : List CharString) (party : PartyInfo) (i : Nat) :
    Except Fault PartyInfo := do
  let member <- readMember args (8 + i * 9)
  pure (party.setMember member)

end PartyInfo

namespace LocalPlayerData

variable (m : Moment) (l : LocalPlayerData)

def findPartyByMember (name : CharString) :
    Option (Sigma fun _ : CharString => PartyInfo) :=
  m.parties.find? l.partyInfoByName fun _ party => party.hasMember name

def findPartyByLocalMember :
    Except Fault (Option (Sigma fun _ : CharString => PartyInfo)) :=
  match l.loginResult with
  | none => Except.error Fault.absentMember
  | some loginResult =>
      Except.ok (l.findPartyByMember m (loginResult.string "name"))

def findPartyByHandle (handle : Int) :
    Option (Sigma fun _ : CharString => PartyInfo) :=
  m.parties.find? l.partyInfoByName fun _ party =>
    (m.members.find? party.membersByName fun _ member =>
      member.handle = handle).isSome

def findPartyById (partyId : Int) :
    Option (Sigma fun _ : CharString => PartyInfo) :=
  m.parties.find? l.partyInfoByName fun _ party => party.partyId = partyId

def setParty (key : CharString) (party : PartyInfo) : LocalPlayerData :=
  { l with partyInfoByName := l.partyInfoByName.insert key party }

def eraseParty (key : CharString) : LocalPlayerData :=
  { l with partyInfoByName := l.partyInfoByName.erase key }

def updateFound (found : Option (Sigma fun _ : CharString => PartyInfo))
    (change : PartyInfo -> Except Fault PartyInfo) :
    Except Fault LocalPlayerData :=
  match found with
  | none => Except.ok l
  | some e => do
      let party <- change e.2
      pure (l.setParty e.1 party)

def leaveFound (found : Option (Sigma fun _ : CharString => PartyInfo))
    (name : CharString) (isSelf : Except Fault Bool) :
    Except Fault LocalPlayerData :=
  match found with
  | none => Except.ok l
  | some e => do
      let self <- isSelf
      pure (if self then l.eraseParty e.2.partyName
        else l.setParty e.1 (e.2.eraseMember name))

variable (args : List CharString)

def onMINFO : Except Fault LocalPlayerData := do
  let name <- arg args 2
  l.updateFound (l.findPartyByMember m name) fun party => do
    let member <- readMember args 1
    pure (party.setMember member)

def onRMINFO : Except Fault LocalPlayerData := do
  let name <- arg args 2
  l.updateFound (l.findPartyByMember m name) fun party => do
    let handle <- arg args 1
    let jobId <- arg args 3
    let hpPercentage <- arg args 4
    pure (party.updateMember name fun member =>
      { member with
        handle := strtouint handle
        name := name
        jobId := atoi jobId
        hpPercentage := atoi hpPercentage })

def onMSINFO : Except Fault LocalPlayerData := do
  let partyId <- arg args 1
  l.updateFound (l.findPartyById m (atoi partyId)) fun party => do
    let playerHandleText <- arg args 2
    let playerHandle := cUnsigned.cast (atoi playerHandleText)
    if playerHandle = 0 then pure party
    else
      let mainSummonHandle <- arg args 3
      let subSummonHandle <- arg args 4
      pure (if strtouint mainSummonHandle ≠ 0 ∨ strtouint subSummonHandle ≠ 0
        then party.setSummons playerHandle
          { playerHandle := playerHandle
            mainSummonHandle := strtouint mainSummonHandle
            subSummonHandle := strtouint subSummonHandle }
        else
          { party with
            summonByPlayerHandle :=
              party.summonByPlayerHandle.erase playerHandle })

def onSINFO : Except Fault LocalPlayerData := do
  let partyId <- arg args 1
  l.updateFound (l.findPartyById m (atoi partyId)) fun party =>
    (List.range ((args.length - 3) / 3)).foldlM
      (PartyInfo.readSummons args) { party with summonByPlayerHandle := ∅ }

/-- The member under the old name is copied; its entry stays. -/
def onCHANGE_NAME : Except Fault LocalPlayerData := do
  let name <- arg args 1
  l.updateFound (l.findPartyByMember m name) fun party => do
    let newName <- arg args 2
    pure (match party.membersByName.lookup name with
      | none => party
      | some member => party.setMember { member with name := newName })

def onCHANGE_LEVEL : Except Fault LocalPlayerData := do
  let name <- arg args 1
  l.updateFound (l.findPartyByMember m name) fun party => do
    let level <- arg args 2
    pure (party.updateMember name fun member =>
      { member with level := atoi level })

def onCHANGE_JOB : Except Fault LocalPlayerData := do
  let name <- arg args 1
  l.updateFound (l.findPartyByMember m name) fun party => do
    let jobId <- arg args 2
    pure (party.updateMember name fun member =>
      { member with jobId := atoi jobId })

def onMODE : Except Fault LocalPlayerData := do
  let found <- l.findPartyByLocalMember m
  l.updateFound found fun party => do
    let shareMode <- arg args 1
    pure { party with shareMode := atoi shareMode }

def onPINFO : Except Fault LocalPlayerData := do
  let partyName <- arg args 2
  let partyId <- arg args 1
  let leaderDisplayName <- arg args 3
  let shareMode <- arg args 4
  let maxLevel <- arg args 5
  let minLevel <- arg args 6
  let partyType <- arg args 7
  let known := (l.partyInfoByName.lookup partyName).getD PartyInfo.create
  let party <- (List.range ((args.length - 8) / 9)).foldlM
    (PartyInfo.readMembers args)
    { known with
      partyId := atoi partyId
      partyName := partyName
      leaderDisplayName := leaderDisplayName
      shareMode := atoi shareMode
      maxLevel := atoi maxLevel
      minLevel := atoi minLevel
      partyType := atoi partyType
      membersByName := ∅ }
  pure (l.setParty partyName party)

def onLIST : Except Fault LocalPlayerData := do
  let found <- l.findPartyByLocalMember m
  l.updateFound found fun party => do
    let shareMode <- arg args 2
    let maxLevel <- arg args 3
    let minLevel <- arg args 4
    pure
      { party with
        shareMode := atoi shareMode
        maxLevel := atoi maxLevel
        minLevel := atoi minLevel }

/-- The first member with a handle that is visited gets a position. -/
def setPosition (args : List CharString) (party : PartyInfo) (i : Nat)
    (handle : Int) : Except Fault PartyInfo :=
  match m.members.find? party.membersByName fun _ member =>
      member.handle = handle with
  | none => Except.ok party
  | some e => do
      let x <- arg args (2 + i * 3)
      let y <- arg args (3 + i * 3)
      pure (party.updateMember e.1 fun member =>
        { member with x := atoi x, y := atoi y })

/-- A handle of no party ends the message. -/
def setPositions : List Nat -> LocalPlayerData -> Except Fault LocalPlayerData
  | [], l => Except.ok l
  | i :: rest, l => do
      let handle <- arg args (1 + i * 3)
      match l.findPartyByHandle m (strtouint handle) with
      | none => Except.ok l
      | some e => do
          let party <- setPosition m args e.2 i (strtouint handle)
          setPositions rest (l.setParty e.1 party)

def onPPOS : Except Fault LocalPlayerData :=
  setPositions m args (List.range ((args.length - 1) / 3)) l

variable (playerName : CharString)

def onKICK : Except Fault LocalPlayerData := do
  let name <- arg args 2
  l.leaveFound (l.findPartyByMember m name) name
    (Except.ok (decide (playerName = name)))

def onLOGOUT : Except Fault LocalPlayerData := do
  let name <- arg args 1
  l.updateFound (l.findPartyByMember m name) fun party =>
    pure (party.updateMember name fun member =>
      { member with
        handle := 0
        hpPercentage := 0
        mpPercentage := 0
        x := 0
        y := 0
        creature := 0 })

/-- The name that decides whether the player left is the second argument. -/
def onLEAVE : Except Fault LocalPlayerData := do
  let name <- arg args 1
  l.leaveFound (l.findPartyByMember m name) name do
    let other <- arg args 2
    pure (decide (playerName = other))

def onPROMOTE : Except Fault LocalPlayerData := do
  let name <- arg args 2
  l.updateFound (l.findPartyByMember m name) fun party =>
    pure (match party.membersByName.lookup name with
      | none => party
      | some member => { party with leaderDisplayName := member.name })

def onDESTROY : Except Fault LocalPlayerData := do
  let partyName <- arg args 1
  pure (match l.partyInfoByName.lookup partyName with
    | none => l
    | some _ => l.eraseParty partyName)

def onINVITE : Except Fault (List CharString) := do
  let name <- arg args 1
  if m.isKnownLocalPlayer name = false then pure []
  else
    let partyIdText <- arg args 3
    match fromChars partyIdText with
    | none => pure []
    | some partyId => do
        let passwordText <- arg args 4
        match fromChars passwordText with
        | none => pure []
        | some password =>
            pure [ascii "/pjoin " ++ print partyId ++ ascii " " ++
              print password]

/-- A command, and the smallest number of arguments it is handled with. -/
def onCommand (command : CharString) : Except Fault LocalPlayerData :=
  if command = ascii "MINFO" ∧ 10 ≤ args.length then l.onMINFO m args
  else if command = ascii "RMINFO" ∧ 5 ≤ args.length then l.onRMINFO m args
  else if command = ascii "MSINFO" ∧ 5 ≤ args.length then l.onMSINFO m args
  else if command = ascii "SINFO" ∧ 4 ≤ args.length then l.onSINFO m args
  else if command = ascii "CHANGE_NAME" ∧ 3 ≤ args.length then
    l.onCHANGE_NAME m args
  else if command = ascii "CHANGE_LEVEL" ∧ 3 ≤ args.length then
    l.onCHANGE_LEVEL m args
  else if command = ascii "CHANGE_JOB" ∧ 3 ≤ args.length then
    l.onCHANGE_JOB m args
  else if command = ascii "MODE" ∧ 2 ≤ args.length then l.onMODE m args
  else if command = ascii "PINFO" ∧ 8 ≤ args.length then l.onPINFO args
  else if command = ascii "LIST" ∧ 5 ≤ args.length then l.onLIST m args
  else if command = ascii "PPOS" ∧ 4 ≤ args.length then l.onPPOS m args
  else if command = ascii "KICK" ∧ 3 ≤ args.length then
    l.onKICK m args playerName
  else if command = ascii "LOGOUT" ∧ 2 ≤ args.length then l.onLOGOUT m args
  else if command = ascii "LEAVE" ∧ 2 ≤ args.length then
    l.onLEAVE m args playerName
  else if command = ascii "PROMOTE" ∧ 3 ≤ args.length then l.onPROMOTE m args
  else if command = ascii "DESTROY" then l.onDESTROY args
  else Except.ok l

/-- The answers go back to the server. -/
def onParty : Except Fault (LocalPlayerData × List CharString) :=
  match args with
  | [] => Except.ok (l, [])
  | command :: _ =>
      if command = ascii "INVITE" then do
        let answers <- onINVITE m args
        pure (l, answers)
      else do
        let l' <- l.onCommand m args playerName command
        pure (l', [])

def rememberChat (packet : Record) : LocalPlayerData :=
  if (packet.string "szSender").head? = some 64 then
    { l with
      chatPropertiesBySender :=
        l.chatPropertiesBySender.insert (packet.string "szSender") packet }
  else l

def onChat (packet : Record) :
    Except Fault (LocalPlayerData × List CharString) :=
  if packet.integer "type" = CHAT_PARTY_SYSTEM ∨
      packet.integer "type" = CHAT_RAID_SYSTEM then
    (l.rememberChat packet).onParty m
      (stringSplit bar (packet.string "message")) playerName
  else Except.ok (l.rememberChat packet, [])

end LocalPlayerData

end Mirror
end Rzu
