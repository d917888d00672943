import Rzu.Auth.State
import Rzu.Library.LittleEndian
import Rzu.Net.Stream

/-!
# The client of the log server

How the auth server lays out a log message: numbers of fixed width, then four
strings without terminators, the lengths of which are among the numbers.
-/

namespace Rzu
namespace Log

open Auth (CharString)
open Library Net

/-- `LogServerClient::Message`; `n` holds `n1` to `n11`. -/
structure LogMessage where
  id : UInt16
  type : UInt8
  threadId : UInt32
  n : Vector Int64 11
  str1 : CharString
  str2 : CharString
  str3 : CharString
  str4 : CharString
deriving DecidableEq

/-- `LogServerClient::NTS`: the string ends at its terminator. -/
def NTS : Int := -1

/--
A string argument: nothing or a terminated string, and how many characters of
it are meant.
-/
structure StringArgument where
  str : Option CharString
  len : Int
  terminated : forall text, str = some text -> 0 ∉ text
  within : forall text, str = some text ->
    len = NTS ∨ (0 ≤ len ∧ len.toNat ≤ text.length)
deriving DecidableEq

namespace StringArgument

/-- What `std::vector::assign` copies. -/
def assigned (argument : StringArgument) : CharString :=
  match argument.str with
  | none => []
  | some text =>
      if argument.len = NTS then text else text.take argument.len.toNat

def whole (text : CharString) (h : 0 ∉ text) : StringArgument where
  str := some text
  len := NTS
  terminated := by
    intro text' heq
    cases heq
    exact h
  within _ _ := Or.inl rfl

theorem assigned_terminated (argument : StringArgument) :
    0 ∉ argument.assigned := by
  rw [assigned]
  split
  · exact List.not_mem_nil
  · rename_i text htext
    split
    · exact argument.terminated text htext
    · intro hmem
      exact argument.terminated text htext (List.mem_of_mem_take hmem)

end StringArgument

/-- The arguments of `sendLog`. -/
structure LogCall where
  id : UInt16
  n : Vector UInt64 11
  str1 : StringArgument
  str2 : StringArgument
  str3 : StringArgument
  str4 : StringArgument
deriving DecidableEq

def LogCall.message (call : LogCall) (pid : UInt32) : LogMessage where
  id := call.id
  type := 1
  threadId := pid
  n := call.n.map UInt64.toInt64
  str1 := call.str1.assigned
  str2 := call.str2.assigned
  str3 := call.str3.assigned
  str4 := call.str4.assigned

/-- `sizeof(LS_11N4S)` -/
def fixedSize : Nat := 105

namespace LogMessage

/-- A length is cut to 16 bits. -/
def lenOf (str : CharString) : UInt16 :=
  UInt16.ofNat str.length

def packetSize (message : LogMessage) : UInt16 :=
  UInt16.ofNat (fixedSize + (lenOf message.str1).toNat +
    (lenOf message.str2).toNat + (lenOf message.str3).toNat +
    (lenOf message.str4).toNat)

/-- `LS_11N4S` in memory, behind the id and the size. -/
def fixedPart (message : LogMessage) : List UInt8 :=
  [message.type] ++
    (leBytes 4 message.threadId.toNat ++
      (message.n.toList.flatMap (fun n => leBytes 8 n.toUInt64.toNat) ++
        (leBytes 2 (lenOf message.str1).toNat ++
          (leBytes 2 (lenOf message.str2).toNat ++
            (leBytes 2 (lenOf message.str3).toNat ++
              leBytes 2 (lenOf message.str4).toNat)))))

def writtenString (str : CharString) : List UInt8 :=
  if lenOf str ≠ 0 then str.take (lenOf str).toNat else []

/-- What `sendLog` writes for a message, in five writes. -/
def writes (message : LogMessage) : List (List UInt8) :=
  [leBytes 2 message.id.toNat ++ leBytes 2 message.packetSize.toNat ++
      message.fixedPart,
    writtenString message.str1,
    writtenString message.str2,
    writtenString message.str3,
    writtenString message.str4]

def written (message : LogMessage) : List UInt8 :=
  message.writes.flatten

end LogMessage

structure LogServerClient where
  stream : Option StreamState
  pendingMessages : List LogMessage

namespace LogServerClient

/-- `LogServerClient::sendLog`: messages wait for the connection. -/
def sendLog (client : LogServerClient) (pid : UInt32) (call : LogCall) :
    LogServerClient × List UInt8 :=
  match client.stream with
  | none => (client, [])
  | some StreamState.unconnected => (client, [])
  | some StreamState.connected => (client, (call.message pid).written)
  | some _ =>
      if client.pendingMessages.length < 100 then
        ({ client with
          pendingMessages :=
            client.pendingMessages ++ [call.message pid] }, [])
      else (client, [])

def sendLogs (client : LogServerClient) (pid : UInt32) :
    List LogCall -> LogServerClient × List UInt8
  | [] => (client, [])
  | call :: calls =>
      let first := client.sendLog pid call
      let later := first.1.sendLogs pid calls
      (later.1, first.2 ++ later.2)

def connected (pendingMessages : List LogMessage) : LogServerClient where
  stream := some StreamState.connected
  pendingMessages := pendingMessages

theorem sendLogs_connected (pendingMessages : List LogMessage)
    (pid : UInt32) (calls : List LogCall) :
    ((connected pendingMessages).sendLogs pid calls).2 =
      calls.flatMap fun call => (call.message pid).written := by
  induction calls with
  | nil => rfl
  | cons call calls ih =>
      rw [List.flatMap_cons, ← ih]
      rfl

end LogServerClient

end Log
end Rzu
