import Mathlib.Logic.Function.Basic
import Rzu.Packet.MessageBuffer

/-!
# The client of the chat gateway

The gateway relays the chat of a game server to a channel of an IRC server and
back.  Lines for IRC are formatted into buffers of fixed sizes.
-/

namespace Rzu
namespace Gateway

open Packet

def latin (text : String) : CharString :=
  text.toList.map fun c => UInt8.ofNat c.toNat

/-- `c_str()`, as a format reads it. -/
def cStr (text : CharString) : CharString := text.takeWhile (· ≠ 0)

/--
`sprintf` into a buffer of so many characters, from the texts and arguments of
its format; nothing if they do not fit with the zero that ends them.
-/
def sprintf (size : Nat) (parts : List CharString) : Option CharString :=
  if parts.flatten.length < size then some parts.flatten else none

/-- `find` of a text that is not empty. -/
def find (pattern : CharString) : CharString -> Option Nat
  | [] => none
  | c :: rest =>
      if pattern <+: c :: rest then some 0
      else (find pattern rest).map (· + 1)

/-- `find_first_of`, from a position on. -/
def findFirstOf (chars : List UInt8) (text : CharString) (pos : Nat) :
    Option Nat :=
  ((text.drop pos).findIdx? fun c => chars.contains c).map (· + pos)

/-- `tolower` of the C locale. -/
def tolower (c : UInt8) : UInt8 := if 65 ≤ c ∧ c ≤ 90 then c + 32 else c

/-!
## State
-/

def CHAT_NORMAL : Nat := 0x00
def CHAT_ADV : Nat := 0x02
def CHAT_WHISPER : Nat := 0x03
def CHAT_GLOBAL : Nat := 0x04
def CHAT_EMOTION : Nat := 0x05
def CHAT_GM : Nat := 0x06
def CHAT_GM_WHISPER : Nat := 0x07
def CHAT_PARTY : Nat := 0x0A
def CHAT_GUILD : Nat := 0x0B
def CHAT_ATTACKTEAM : Nat := 0x0C
def CHAT_NOTICE : Nat := 0x14
def CHAT_ANNOUNCE : Nat := 0x15
def CHAT_CENTER_NOTICE : Nat := 0x16

/-- The arguments of `sendMsgToGS`, which belongs to the game session. -/
structure GameMessage where
  type : Nat
  sender : CharString
  target : CharString
  msg : CharString
deriving DecidableEq

/-- With what has been written to IRC and handed to the game session. -/
structure IrcClient where
  servername : CharString
  channelName : CharString
  nickname : CharString
  hostname : CharString
  joined : Bool
  buffer : List UInt8
  mpGsToIrc : CharString -> Option CharString
  mpIrcToGs : CharString -> Option CharString
  written : List CharString
  toGame : List GameMessage

structure IrcMessage where
  origin : CharString
  command : CharString
  parameters : CharString
  trailing : CharString

namespace IrcClient

def create (hostname channel nickname : CharString) : IrcClient where
  servername := []
  channelName := channel
  nickname := nickname
  hostname := hostname
  joined := false
  buffer := []
  mpGsToIrc _ := none
  mpIrcToGs _ := none
  written := []
  toGame := []

def write (c : IrcClient) (text : CharString) : IrcClient :=
  { c with written := c.written ++ [text] }

def sendMsgToGS (c : IrcClient) (type : Nat)
    (sender target msg : CharString) : IrcClient :=
  { c with toGame := c.toGame ++ [⟨type, cStr sender, cStr target, cStr msg⟩] }

/-!
## Connection
-/

/-- The name of a game server ends where its state begins. -/
def connect (c : IrcClient) (servername : CharString) : IrcClient :=
  { c with
    servername := servername.take
      ((findFirstOf (latin " \t(") servername 0).getD servername.length) }

/-- `setGameServerName` of the game session. -/
def setGameServerName (c : IrcClient) (name : CharString) : IrcClient :=
  if c.joined then c else c.connect name

def lowerCaseServerName (c : IrcClient) : CharString :=
  match c.servername with
  | [] => []
  | first :: rest => tolower first :: rest

/-- The names that are not configured are those of the server. -/
def withNames (c : IrcClient) : IrcClient :=
  { c with
    nickname := if c.nickname.length = 0 then c.servername else c.nickname
    channelName :=
      if c.channelName.length = 0 then latin "#rz-" ++ c.lowerCaseServerName
      else c.channelName }

def loginText (c : IrcClient) : List CharString :=
  [latin "NICK ", cStr c.nickname, latin "\r\nUSER gw-",
    cStr c.lowerCaseServerName, latin " gw-", cStr c.lowerCaseServerName,
    latin " ", cStr c.hostname, latin " :rzchatgateway ", cStr c.servername,
    latin "\r\n"]

/-- `onStateChanged` to the connected state. -/
def onConnected (c : IrcClient) : Option IrcClient :=
  (sprintf 128 c.withNames.loginText).map fun loginText =>
    c.withNames.write loginText

def onUnconnected (c : IrcClient) : IrcClient := { c with joined := false }

/-!
## Messages for IRC
-/

/-- Messages without a target, or for a channel, are for our channel. -/
def addressee (c : IrcClient) (target : CharString) : CharString :=
  match cStr target with
  | [] => cStr c.channelName
  | first :: rest =>
      if first = 35 then cStr c.channelName else first :: rest

def sendMessage (c : IrcClient) (target msg : CharString) : Option IrcClient :=
  (sprintf 512 [latin "PRIVMSG ", c.addressee target, latin " :", cStr msg,
    latin "\r\n"]).map c.write

def chatColors : List (Nat × CharString) :=
  [ (CHAT_ADV, latin "02"),
    (CHAT_WHISPER, latin "08"),
    (CHAT_GLOBAL, latin "15"),
    (CHAT_EMOTION, latin "15"),
    (CHAT_GM, latin "07"),
    (CHAT_GM_WHISPER, latin "08"),
    (CHAT_PARTY, latin "03"),
    (CHAT_GUILD, latin "06"),
    (CHAT_ATTACKTEAM, latin "06"),
    (CHAT_NOTICE, latin "15"),
    (CHAT_ANNOUNCE, latin "15"),
    (CHAT_CENTER_NOTICE, latin "15") ]

def getChatColor (type : Nat) : Option CharString :=
  (chatColors.find? fun entry => entry.1 = type).map Prod.snd

def messageFull (type : Nat) (sender text : CharString) : List CharString :=
  match getChatColor type with
  | some color =>
      [[0x03], cStr color, cStr sender, latin ": ", cStr text, [0x03]]
  | none => [cStr sender, latin ": ", cStr text]

/-- To whom a whisper goes, and what is left of it. -/
def whisper (c : IrcClient) (sender msg : CharString) :
    CharString × CharString :=
  match find (latin ": ") msg with
  | none => ((c.mpGsToIrc (cStr sender)).getD [], msg)
  | some separator =>
      if separator = msg.length - 2 then
        ((c.mpGsToIrc (cStr sender)).getD [], msg)
      else (msg.take separator, msg.drop (separator + 2))

/-- Line ends are blanked. -/
def oneLine (msg : CharString) : CharString :=
  msg.map fun c => if c = 0x0D ∨ c = 0x0A then 0x20 else c

def sendMsgToIRC (c : IrcClient) (type : Nat) (sender msg : CharString) :
    Option IrcClient :=
  let msg := oneLine msg
  if (cStr sender).head? = some 64 then some c
  else if msg.length < 1 then some c
  else if type = CHAT_WHISPER then
    let addressed := c.whisper sender msg
    (sprintf 500 (messageFull type sender addressed.2)).bind fun text =>
      if addressed.1.length > 0 then
        (c.sendMessage addressed.1 text).map fun c =>
          { c with mpIrcToGs :=
              Function.update c.mpIrcToGs addressed.1 (some (cStr sender)) }
      else c.sendMessage [] text
  else
    (sprintf 500 (messageFull type sender msg)).bind fun text =>
      c.sendMessage [] text

/-!
## Lines from IRC
-/

/-- A line without a blank begins again at its first character. -/
def parseIrcMessage (message : CharString) : IrcMessage :=
  let blank := findFirstOf (latin " ") message 0
  let hasOrigin := message.head? = some 58
  let originEnd := if hasOrigin then
      match blank with
      | some i => i + 1
      | none => 0
    else 0
  let trailing := find (latin " :") message
  let trailingStart := trailing.getD message.length
  let commandEnd :=
    (findFirstOf (latin " \r\n") message originEnd).getD message.length
  let parametersStart := commandEnd + 1
  { origin :=
      if hasOrigin then
        match blank with
        | some i => (message.drop 1).take (i - 1)
        | none => message.drop 1
      else []
    command :=
      if commandEnd > originEnd then
        (message.drop originEnd).take (commandEnd - originEnd)
      else []
    parameters :=
      if trailingStart > parametersStart then
        (message.drop parametersStart).take (trailingStart - parametersStart)
      else []
    trailing :=
      match trailing with
      | some i => message.drop (i + 2)
      | none => [] }

def usageText : CharString :=
  latin "Utilisation des messages priv\u00e9s comme en jeu: " ++
    latin "\"Player message \u00e0 envoyer"

/-- The nick of a sender ends before its user. -/
def nickOf (origin : CharString) : CharString :=
  origin.take ((findFirstOf (latin "!") origin 0).getD origin.length)

/-- What is done about a `PRIVMSG`. -/
inductive Reaction where
  | ignore
  | explain
  | whisper (target msg : CharString)
  | answer (target msg : CharString)
  | relay (type : Nat) (msg : CharString)

/-- `char` is signed, and special commands are below the blank. -/
def isSpecial (c : UInt8) : Bool := c < 32 || 128 ≤ c

def reaction (c : IrcClient) (message : IrcMessage) : Reaction :=
  match message.trailing with
  | [] => Reaction.ignore
  | first :: rest =>
      let trailing := first :: rest
      if isSpecial first then Reaction.ignore
      else if first = 34 then
        match findFirstOf (latin " ") trailing 0 with
        | none => Reaction.explain
        | some separator =>
            if separator = trailing.length - 1 then Reaction.explain
            else Reaction.whisper ((trailing.drop 1).take (separator - 1))
              (trailing.drop (separator + 1))
      else if first = 36 then Reaction.relay CHAT_ADV rest
      else if first = 33 then Reaction.relay CHAT_GLOBAL rest
      else if first = 35 then Reaction.relay CHAT_PARTY rest
      else if first = 37 then Reaction.relay CHAT_GUILD rest
      else if message.parameters = c.nickname then
        match c.mpIrcToGs (nickOf message.origin) with
        | none => Reaction.explain
        | some [] => Reaction.ignore
        | some target => Reaction.answer target trailing
      else Reaction.relay CHAT_NORMAL trailing

def onPrivMsg (c : IrcClient) (message : IrcMessage) : Option IrcClient :=
  let sender := nickOf message.origin
  match c.reaction message with
  | .ignore => some c
  | .explain => c.sendMessage (cStr sender) usageText
  | .whisper target msg =>
      some ({ c with mpGsToIrc :=
          Function.update c.mpGsToIrc target (some sender) }.sendMsgToGS
        CHAT_WHISPER sender target msg)
  | .answer target msg => some (c.sendMsgToGS CHAT_WHISPER sender target msg)
  | .relay type msg => some (c.sendMsgToGS type sender [] msg)

def joinText (c : IrcClient) : List CharString :=
  [latin "JOIN ", cStr c.channelName, latin "\r\n"]

def onIrcLine (c : IrcClient) (line : CharString) : Option IrcClient :=
  let message := parseIrcMessage line
  if message.command = latin "001" then
    (sprintf 128 c.joinText).map fun login =>
      { c.write login with joined := true }
  else if message.command = latin "PING" then
    some (c.write (latin "PONG :" ++ message.trailing ++ latin "\r\n"))
  else if message.command = latin "PRIVMSG" then c.onPrivMsg message
  else some c

def takeLines (line : CharString) : List UInt8 -> List CharString × List UInt8
  | [] => ([], line)
  | [c] => ([], line ++ [c])
  | c :: d :: rest =>
      if c = 0x0D ∧ d = 0x0A then
        let later := takeLines [] rest
        (line :: later.1, later.2)
      else takeLines (line ++ [c]) (d :: rest)

def onDataReceived (c : IrcClient) (dataRecv : List UInt8) :
    Option IrcClient :=
  let lines := takeLines [] (c.buffer ++ dataRecv)
  lines.1.foldlM onIrcLine { c with buffer := lines.2 }

end IrcClient

/-!
## Events
-/

/--
The game server is known by its name, the connection to IRC changes its state
or has data, a chat message comes from the game, or the game connects and
disconnects.
-/
inductive IrcEvent where
  | gameServerName (name : CharString)
  | connected
  | unconnected
  | dataReceived (data : List UInt8)
  | chat (type : Nat) (sender msg : CharString)
  | gameConnected
  | gameDisconnected

namespace IrcClient

def connectedText : CharString :=
  latin "\u0001ACTION is connected to the game server\u0001"

def disconnectedText : CharString :=
  latin "\u0001ACTION disconnected from the game server\u0001"

/-- The client after an event; nothing if a line does not fit its buffer. -/
def handle (c : IrcClient) : IrcEvent -> Option IrcClient
  | .gameServerName name => some (c.setGameServerName name)
  | .connected => c.onConnected
  | .unconnected => some c.onUnconnected
  | .dataReceived data => c.onDataReceived data
  | .chat type sender msg => c.sendMsgToIRC type sender msg
  | .gameConnected => c.sendMessage [] connectedText
  | .gameDisconnected => c.sendMessage [] disconnectedText

end IrcClient

end Gateway
end Rzu
