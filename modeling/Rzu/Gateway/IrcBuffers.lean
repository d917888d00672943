import Mathlib.Data.List.TakeWhile
import Rzu.Library.Run
import Rzu.Gateway.IrcClient

/-!
# Buffers of the gateway

Every line for IRC has a fixed part and some names and texts.  It fits its
buffer exactly if those are short enough together.
-/

namespace Rzu
namespace Gateway

open Library Packet

/-!
## Lengths
-/

theorem sprintf_eq_none_iff (size : Nat) (parts : List CharString) :
    sprintf size parts = none ↔ size ≤ parts.flatten.length := by
  rw [sprintf]
  split
  · rename_i hlt
    exact iff_of_false (by simp) (Nat.not_le.mpr hlt)
  · rename_i hle
    exact iff_of_true rfl (Nat.le_of_not_lt hle)

theorem cStr_of_not_mem {text : CharString} (h : 0 ∉ text) :
    cStr text = text := by
  rw [cStr, List.takeWhile_eq_self_iff]
  intro c hc
  rw [decide_eq_true_eq]
  intro hzero
  exact h (hzero ▸ hc)

theorem zero_not_mem_cStr (text : CharString) : 0 ∉ cStr text := by
  intro hzero
  have hne := List.mem_takeWhile_imp hzero
  simp at hne

theorem length_cStr_lowerCaseServerName (c : IrcClient) :
    (cStr c.lowerCaseServerName).length = (cStr c.servername).length := by
  rw [IrcClient.lowerCaseServerName]
  cases c.servername with
  | nil => rfl
  | cons first rest =>
      have hzero : tolower first = 0 ↔ first = 0 := by
        rw [tolower]
        split
        · rename_i hupper
          constructor
          · intro hsum
            have hnat := congrArg UInt8.toNat hsum
            have hlow := UInt8.le_iff_toNat_le.mp hupper.1
            have hhigh := UInt8.le_iff_toNat_le.mp hupper.2
            rw [UInt8.toNat_add] at hnat
            simp at hnat hlow hhigh
            lia
          · rintro rfl
            exact absurd hupper.1 (by decide)
        · exact Iff.rfl
      rw [cStr, cStr, List.takeWhile_cons, List.takeWhile_cons]
      by_cases hfirst : first = 0
      · rw [hfirst]
        rfl
      · simp [hfirst, hzero]

namespace IrcClient

/-!
## Lines
-/

/-- What a login, a join, and a message cannot have in their buffers. -/
def LoginOverflows (c : IrcClient) : Prop :=
  90 ≤ (cStr c.nickname).length + 3 * (cStr c.servername).length +
    (cStr c.hostname).length

def JoinOverflows (c : IrcClient) : Prop := 121 ≤ (cStr c.channelName).length

def MessageOverflows (c : IrcClient) (target msg : CharString) : Prop :=
  500 ≤ (c.addressee target).length + (cStr msg).length

theorem onConnected_eq_none_iff (c : IrcClient) :
    c.onConnected = none ↔ c.withNames.LoginOverflows := by
  rw [onConnected, Option.map_eq_none_iff, sprintf_eq_none_iff, loginText]
  simp only [List.flatten_cons, List.flatten_nil, List.length_append,
    length_cStr_lowerCaseServerName, LoginOverflows, List.length_nil]
  simp only [latin, List.length_map]
  simp
  lia

theorem joinText_overflows_iff (c : IrcClient) :
    sprintf 128 c.joinText = none ↔ c.JoinOverflows := by
  rw [sprintf_eq_none_iff, joinText, JoinOverflows]
  simp [latin]

theorem sendMessage_eq_none_iff (c : IrcClient) (target msg : CharString) :
    c.sendMessage target msg = none ↔ c.MessageOverflows target msg := by
  rw [sendMessage, Option.map_eq_none_iff, sprintf_eq_none_iff,
    MessageOverflows]
  simp [latin]
  lia

/-- What a chat message takes besides the names and the text. -/
def decoration (type : Nat) : Nat :=
  match getChatColor type with
  | some _ => 6
  | none => 2

theorem length_chatColors :
    forall entry, entry ∈ chatColors -> (cStr entry.2).length = 2 := by
  decide

theorem length_color {type : Nat} {color : CharString}
    (h : getChatColor type = some color) : (cStr color).length = 2 := by
  rcases Option.map_eq_some_iff.mp h with ⟨entry, hentry, rfl⟩
  exact length_chatColors entry (List.mem_of_find?_eq_some hentry)

theorem length_messageFull (type : Nat) (sender text : CharString) :
    (messageFull type sender text).flatten.length =
      decoration type + (cStr sender).length + (cStr text).length := by
  rw [messageFull, decoration]
  split
  · rename_i color hcolor
    simp [length_color hcolor, latin]
    lia
  · simp [latin]
    lia

theorem cStr_messageFull (type : Nat) (sender text : CharString) :
    cStr (messageFull type sender text).flatten =
      (messageFull type sender text).flatten := by
  apply cStr_of_not_mem
  have hcolon : (0 : UInt8) ∉ latin ": " := by decide
  rw [messageFull]
  split
  · simp [zero_not_mem_cStr, hcolon]
  · simp [zero_not_mem_cStr, hcolon]

theorem relay_eq_none_iff (c : IrcClient) (type : Nat)
    (sender target text : CharString) :
    ((sprintf 500 (messageFull type sender text)).bind fun text =>
        c.sendMessage target text) = none ↔
      500 ≤ (c.addressee target).length + (decoration type +
        (cStr sender).length + (cStr text).length) := by
  rw [← length_messageFull]
  cases hfull : sprintf 500 (messageFull type sender text) with
  | none =>
      have hle := (sprintf_eq_none_iff _ _).mp hfull
      exact iff_of_true rfl (Nat.le_trans hle (Nat.le_add_left _ _))
  | some full =>
      have hsame : full = (messageFull type sender text).flatten := by
        rw [sprintf] at hfull
        split at hfull
        · cases hfull
          rfl
        · cases hfull
      rw [Option.bind_some, sendMessage_eq_none_iff, MessageOverflows, hsame,
        cStr_messageFull]

/-- To whom a chat message goes, and its text. -/
def addressed (c : IrcClient) (type : Nat) (sender msg : CharString) :
    CharString × CharString :=
  if type = CHAT_WHISPER then c.whisper sender (oneLine msg)
  else ([], oneLine msg)

/-- A chat message that is relayed is too long with its names. -/
def ChatOverflows (c : IrcClient) (type : Nat) (sender msg : CharString) :
    Prop :=
  (cStr sender).head? ≠ some 64 ∧ 0 < msg.length ∧
    500 ≤ (c.addressee (c.addressed type sender msg).1).length +
      (decoration type + (cStr sender).length +
        (cStr (c.addressed type sender msg).2).length)

theorem sendMsgToIRC_eq_none_iff (c : IrcClient) (type : Nat)
    (sender msg : CharString) :
    c.sendMsgToIRC type sender msg = none ↔
      c.ChatOverflows type sender msg := by
  have hlength : (oneLine msg).length = msg.length := List.length_map _
  rw [sendMsgToIRC, ChatOverflows, hlength, addressed]
  split
  · rename_i hstaff
    simp [hstaff]
  · rename_i hstaff
    split
    · rename_i hempty
      simp [Nat.lt_one_iff.mp hempty]
    · rename_i hempty
      have hpos : 0 < msg.length := Nat.pos_of_ne_zero fun hzero =>
        hempty (by lia)
      rw [and_iff_right hstaff, and_iff_right hpos]
      split
      · rename_i hwhisper
        rw [← relay_eq_none_iff]
        cases htarget : (c.whisper sender (oneLine msg)).1 with
        | nil => simp [htarget]
        | cons first rest =>
            simp [htarget, Option.bind_eq_none_iff]
      · exact c.relay_eq_none_iff type sender [] (oneLine msg)

/-!
## Lines from IRC
-/

/-- An answer to a line is too long. -/
def LineOverflows (c : IrcClient) (line : CharString) : Prop :=
  let message := parseIrcMessage line
  (message.command = latin "001" ∧ c.JoinOverflows) ∨
    (message.command = latin "PRIVMSG" ∧
      c.reaction message = Reaction.explain ∧
      c.MessageOverflows (cStr (nickOf message.origin)) usageText)

theorem onPrivMsg_eq_none_iff (c : IrcClient) (message : IrcMessage) :
    c.onPrivMsg message = none ↔
      c.reaction message = Reaction.explain ∧
        c.MessageOverflows (cStr (nickOf message.origin)) usageText := by
  rw [onPrivMsg]
  cases hreaction : c.reaction message with
  | explain => simp [sendMessage_eq_none_iff]
  | ignore => simp
  | whisper target msg => simp
  | answer target msg => simp
  | relay type msg => simp

theorem onIrcLine_eq_none_iff (c : IrcClient) (line : CharString) :
    c.onIrcLine line = none ↔ c.LineOverflows line := by
  have hjoin : latin "001" ≠ latin "PRIVMSG" := by decide
  have hping : latin "PING" ≠ latin "001" ∧
      latin "PING" ≠ latin "PRIVMSG" := by
    decide
  rw [onIrcLine, LineOverflows]
  split
  · rename_i hcommand
    simp [hcommand, hjoin, joinText_overflows_iff]
  · rename_i hcommand
    split
    · rename_i hcommand'
      simp [hcommand', hping]
    · rename_i hcommand'
      split
      · rename_i hcommand''
        simp [hcommand'', hjoin.symm, onPrivMsg_eq_none_iff]
      · rename_i hcommand''
        simp [hcommand, hcommand'']

/-- Lines change nothing that the answers to others depend on. -/
structure SameNames (c c' : IrcClient) : Prop where
  channelName : c'.channelName = c.channelName
  nickname : c'.nickname = c.nickname
  mpIrcToGs : c'.mpIrcToGs = c.mpIrcToGs

theorem SameNames.reaction_eq {c c' : IrcClient} (h : c.SameNames c')
    (message : IrcMessage) : c'.reaction message = c.reaction message := by
  simp only [reaction, h.nickname, h.mpIrcToGs]

theorem SameNames.lineOverflows_iff {c c' : IrcClient} (h : c.SameNames c')
    (line : CharString) : c'.LineOverflows line ↔ c.LineOverflows line := by
  simp only [LineOverflows, JoinOverflows, MessageOverflows, addressee,
    h.channelName, h.reaction_eq]

theorem sendMessage_sameNames {c c' : IrcClient} {target msg : CharString}
    (h : c.sendMessage target msg = some c') : c.SameNames c' := by
  rcases Option.map_eq_some_iff.mp h with ⟨text, -, rfl⟩
  exact ⟨rfl, rfl, rfl⟩

theorem onIrcLine_sameNames {c c' : IrcClient} {line : CharString}
    (h : c.onIrcLine line = some c') : c.SameNames c' := by
  rw [onIrcLine] at h
  split at h
  · rcases Option.map_eq_some_iff.mp h with ⟨text, -, rfl⟩
    exact ⟨rfl, rfl, rfl⟩
  · split at h
    · cases h
      exact ⟨rfl, rfl, rfl⟩
    · split at h
      · rw [onPrivMsg] at h
        split at h
        · cases h
          exact ⟨rfl, rfl, rfl⟩
        · exact sendMessage_sameNames h
        · cases h
          exact ⟨rfl, rfl, rfl⟩
        · cases h
          exact ⟨rfl, rfl, rfl⟩
        · cases h
          exact ⟨rfl, rfl, rfl⟩
      · cases h
        exact ⟨rfl, rfl, rfl⟩

theorem onIrcLines_eq_none_iff (lines : List CharString) (c : IrcClient) :
    lines.foldlM onIrcLine c = none ↔
      exists line, line ∈ lines ∧ c.LineOverflows line := by
  induction lines generalizing c with
  | nil => simp
  | cons line lines ih =>
      rw [List.foldlM_cons]
      cases hline : c.onIrcLine line with
      | none =>
          exact iff_of_true rfl ⟨line, List.mem_cons_self,
            (onIrcLine_eq_none_iff c line).mp hline⟩
      | some c' =>
          have hfits : ¬c.LineOverflows line := by
            rw [← onIrcLine_eq_none_iff, hline]
            exact Option.some_ne_none c'
          have hsame := onIrcLine_sameNames hline
          simp [ih, hsame.lineOverflows_iff, hfits]

/-!
## Events
-/

/-- What an event cannot bring without a line that is too long. -/
def Overflows (c : IrcClient) : IrcEvent -> Prop
  | .connected => c.withNames.LoginOverflows
  | .dataReceived data =>
      exists line, line ∈ (takeLines [] (c.buffer ++ data)).1 ∧
        c.LineOverflows line
  | .chat type sender msg => c.ChatOverflows type sender msg
  | .gameConnected => c.MessageOverflows [] connectedText
  | .gameDisconnected => c.MessageOverflows [] disconnectedText
  | .gameServerName _ => False
  | .unconnected => False

theorem handle_eq_none_iff (c : IrcClient) (e : IrcEvent) :
    c.handle e = none ↔ c.Overflows e := by
  cases e with
  | gameServerName name => simp [handle, Overflows]
  | connected => exact c.onConnected_eq_none_iff
  | unconnected => simp [handle, Overflows]
  | dataReceived data =>
      rw [handle, onDataReceived, onIrcLines_eq_none_iff]
      rfl
  | chat type sender msg => exact c.sendMsgToIRC_eq_none_iff type sender msg
  | gameConnected => exact c.sendMessage_eq_none_iff [] connectedText
  | gameDisconnected => exact c.sendMessage_eq_none_iff [] disconnectedText

/--
Along any events all lines fit their buffers exactly if no event has names and
texts that are too long together.
-/
theorem fits_iff (c : IrcClient) (events : List IrcEvent) :
    (events.foldlM handle c).isSome ↔
      Avoids (fun c e c' => c.handle e = some c') c Overflows events :=
  isSome_foldlM_iff_avoids handle_eq_none_iff c events

/-- A chat message of 495 letters is too long for a sender of three. -/
theorem not_fits_long :
    ¬([IrcEvent.chat CHAT_NORMAL (latin "Bob")
        (List.replicate 495 120)].foldlM handle
      (create (latin "*") (latin "#game") (latin "gateway"))).isSome := by
  have hlong : (create (latin "*") (latin "#game")
      (latin "gateway")).handle (IrcEvent.chat CHAT_NORMAL (latin "Bob")
        (List.replicate 495 120)) = none := by
    rw [handle_eq_none_iff]
    have hpos : 0 < (List.replicate 495 (120 : UInt8)).length := by
      rw [List.length_replicate]
      lia
    refine ⟨by decide, hpos, ?_⟩
    have hnormal : CHAT_NORMAL ≠ CHAT_WHISPER := by decide
    have hsender : (cStr (latin "Bob")).length = 3 := by decide
    have htext : cStr (oneLine (List.replicate 495 120)) =
        List.replicate 495 120 := by
      rw [oneLine, List.map_replicate]
      apply cStr_of_not_mem
      intro hzero
      exact absurd (List.eq_of_mem_replicate hzero) (by decide)
    rw [addressed, if_neg hnormal, hsender, htext, List.length_replicate]
    have hdecoration : decoration CHAT_NORMAL = 2 := by decide
    rw [hdecoration]
    lia
  rw [List.foldlM_cons, hlong]
  simp

end IrcClient

end Gateway
end Rzu
