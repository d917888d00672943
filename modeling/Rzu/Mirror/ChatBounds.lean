import Rzu.Library.Outcome
import Rzu.Mirror.PartyChat

/-!
# Arguments of party messages

Most commands are handled only with the arguments that they read.  An
invitation, a player who leaves and a party that is destroyed are not.
-/

namespace Rzu
namespace Mirror

open Library
open Library.Numeral
open Core
open Packet

/-- No vector is indexed behind its end. -/
def InBounds {α : Type} (result : Except Fault α) : Prop :=
  Without Fault.outOfRange result

section Arguments

variable {α β : Type} {fault : Fault} {args : List CharString} {i n : Nat}
  {f : CharString -> Except Fault α}

theorem arg_ok (h : i < args.length) :
    arg args i = Except.ok (args.getD i []) := by
  rw [arg, List.getD_eq_getElem?_getD, List.getElem?_eq_getElem h]
  rfl

theorem arg_outOfRange (h : args.length ≤ i) :
    arg args i = Except.error Fault.outOfRange := by
  rw [arg, List.getElem?_eq_none h]

theorem without_arg (hn : fault = Fault.outOfRange -> n ≤ args.length)
    (hi : i < n) (hf : forall field, Without fault (f field)) :
    Without fault (arg args i >>= f) := by
  refine without_bind ?_ fun field _ => hf field
  by_cases h : i < args.length
  · rw [arg_ok h]
    exact without_ok _
  · rw [arg_outOfRange (Nat.not_lt.mp h)]
    intro heq
    cases heq
    exact h (Nat.lt_of_lt_of_le hi (hn rfl))

theorem inBounds_arg_iff :
    InBounds (arg args i >>= f) ↔
      i < args.length ∧ InBounds (f (args.getD i [])) := by
  by_cases h : i < args.length
  · rw [arg_ok h]
    exact (and_iff_right h).symm
  · rw [arg_outOfRange (Nat.not_lt.mp h)]
    constructor
    · intro hbounds
      exact absurd rfl hbounds
    · intro hboth
      exact absurd hboth.left h

theorem inBounds_bind_pure {x : Except Fault α} {f : α -> β} :
    InBounds (x >>= fun a => pure (f a)) ↔ InBounds x :=
  without_bind_pure

theorem without_readMember
    (h : fault = Fault.outOfRange -> i + 9 ≤ args.length) :
    Without fault (readMember args i) := by
  rw [readMember]
  refine without_arg h (by lia) fun _ => ?_
  refine without_arg h (by lia) fun _ => ?_
  refine without_arg h (by lia) fun _ => ?_
  refine without_arg h (by lia) fun _ => ?_
  refine without_arg h (by lia) fun _ => ?_
  refine without_arg h (by lia) fun _ => ?_
  refine without_arg h (by lia) fun _ => ?_
  refine without_arg h (by lia) fun _ => ?_
  refine without_arg h (by lia) fun _ => ?_
  exact without_ok _

end Arguments

namespace LocalPlayerData

variable {m : Moment} {l : LocalPlayerData} {args : List CharString}
  {playerName : CharString} {fault : Fault}
  {found : Option (Sigma fun _ : CharString => PartyInfo)}

theorem without_updateFound {change : PartyInfo -> Except Fault PartyInfo}
    (h : forall party, Without fault (change party)) :
    Without fault (l.updateFound found change) := by
  cases found with
  | none => exact without_ok l
  | some e =>
      refine without_bind (h e.2) fun party _ => ?_
      exact without_ok _

theorem without_leaveFound_iff {name : CharString}
    {isSelf : Except Fault Bool} :
    Without fault (l.leaveFound found name isSelf) ↔
      ((exists e, found = some e) -> Without fault isSelf) := by
  cases found with
  | none =>
      constructor
      · intro _ h
        rcases h with ⟨e, he⟩
        cases he
      · intro _
        exact without_ok l
  | some e =>
      rw [leaveFound, without_bind_pure]
      constructor
      · intro h _
        exact h
      · intro h
        exact h ⟨e, rfl⟩

theorem without_findPartyByLocalMember
    (h : fault = Fault.absentMember -> l.loginResult.isSome) :
    Without fault (l.findPartyByLocalMember m) := by
  rw [findPartyByLocalMember]
  split
  · rename_i hnone
    intro heq
    cases heq
    have hsome := h rfl
    rw [hnone] at hsome
    cases hsome
  · exact without_ok _

theorem without_onMINFO
    (h : fault = Fault.outOfRange -> 10 ≤ args.length) :
    Without fault (l.onMINFO m args) := by
  refine without_arg h (by lia) fun name =>
    without_updateFound fun party => ?_
  refine without_bind (without_readMember h) fun member _ => ?_
  exact without_ok _

theorem without_onRMINFO
    (h : fault = Fault.outOfRange -> 5 ≤ args.length) :
    Without fault (l.onRMINFO m args) := by
  refine without_arg h (by lia) fun name =>
    without_updateFound fun party => ?_
  refine without_arg h (by lia) fun _ => ?_
  refine without_arg h (by lia) fun _ => ?_
  refine without_arg h (by lia) fun _ => ?_
  exact without_ok _

theorem without_onMSINFO
    (h : fault = Fault.outOfRange -> 5 ≤ args.length) :
    Without fault (l.onMSINFO m args) := by
  refine without_arg h (by lia) fun _ => without_updateFound fun party => ?_
  refine without_arg h (by lia) fun playerHandle => ?_
  refine without_ite (fun _ => without_ok _) fun _ => ?_
  refine without_arg h (by lia) fun _ => ?_
  refine without_arg h (by lia) fun _ => ?_
  exact without_ok _

theorem without_onSINFO
    (h : fault = Fault.outOfRange -> 4 ≤ args.length) :
    Without fault (l.onSINFO m args) := by
  refine without_arg h (by lia) fun _ => without_updateFound fun party => ?_
  refine without_foldlM ?_ _
  intro i hi party'
  have hcount := List.mem_range.mp hi
  have hlength : fault = Fault.outOfRange -> 6 + i * 3 ≤ args.length := by
    intro _
    lia
  refine without_arg hlength (by lia) fun _ => ?_
  refine without_arg hlength (by lia) fun _ => ?_
  refine without_arg hlength (by lia) fun _ => ?_
  exact without_ok _

theorem without_onCHANGE_NAME
    (h : fault = Fault.outOfRange -> 3 ≤ args.length) :
    Without fault (l.onCHANGE_NAME m args) := by
  refine without_arg h (by lia) fun _ => without_updateFound fun party => ?_
  refine without_arg h (by lia) fun _ => ?_
  exact without_ok _

theorem without_onCHANGE_LEVEL
    (h : fault = Fault.outOfRange -> 3 ≤ args.length) :
    Without fault (l.onCHANGE_LEVEL m args) := by
  refine without_arg h (by lia) fun _ => without_updateFound fun party => ?_
  refine without_arg h (by lia) fun _ => ?_
  exact without_ok _

theorem without_onCHANGE_JOB
    (h : fault = Fault.outOfRange -> 3 ≤ args.length) :
    Without fault (l.onCHANGE_JOB m args) := by
  refine without_arg h (by lia) fun _ => without_updateFound fun party => ?_
  refine without_arg h (by lia) fun _ => ?_
  exact without_ok _

theorem without_onMODE
    (h : fault = Fault.outOfRange -> 2 ≤ args.length)
    (hlogin : fault = Fault.absentMember -> l.loginResult.isSome) :
    Without fault (l.onMODE m args) := by
  refine without_bind (without_findPartyByLocalMember hlogin) fun found _ => ?_
  refine without_updateFound fun party => ?_
  refine without_arg h (by lia) fun _ => ?_
  exact without_ok _

theorem without_onPINFO
    (h : fault = Fault.outOfRange -> 8 ≤ args.length) :
    Without fault (l.onPINFO args) := by
  refine without_arg h (by lia) fun partyName => ?_
  refine without_arg h (by lia) fun _ => ?_
  refine without_arg h (by lia) fun _ => ?_
  refine without_arg h (by lia) fun _ => ?_
  refine without_arg h (by lia) fun _ => ?_
  refine without_arg h (by lia) fun _ => ?_
  refine without_arg h (by lia) fun _ => ?_
  refine without_bind_pure.mpr (without_foldlM ?_ _)
  intro i hi party
  have hcount := List.mem_range.mp hi
  refine without_bind_pure.mpr (without_readMember fun _ => ?_)
  lia

theorem without_onLIST
    (h : fault = Fault.outOfRange -> 5 ≤ args.length)
    (hlogin : fault = Fault.absentMember -> l.loginResult.isSome) :
    Without fault (l.onLIST m args) := by
  refine without_bind (without_findPartyByLocalMember hlogin) fun found _ => ?_
  refine without_updateFound fun party => ?_
  refine without_arg h (by lia) fun _ => ?_
  refine without_arg h (by lia) fun _ => ?_
  refine without_arg h (by lia) fun _ => ?_
  exact without_ok _

theorem without_setPosition {party : PartyInfo} {i : Nat} {handle : Int}
    (h : fault = Fault.outOfRange -> 4 + i * 3 ≤ args.length) :
    Without fault (setPosition m args party i handle) := by
  rw [setPosition]
  split
  · exact without_ok _
  · refine without_arg h (by lia) fun _ => ?_
    refine without_arg h (by lia) fun _ => ?_
    exact without_ok _

theorem without_setPositions {indexes : List Nat}
    (h : forall i, i ∈ indexes ->
      fault = Fault.outOfRange -> 4 + i * 3 ≤ args.length) :
    Without fault (setPositions m args indexes l) := by
  induction indexes generalizing l with
  | nil => exact without_ok l
  | cons i rest ih =>
      have hi := h i List.mem_cons_self
      refine without_arg hi (by lia) fun handle => ?_
      split
      · exact without_ok l
      · refine without_bind (without_setPosition hi) fun party _ => ?_
        exact ih fun i' hi' => h i' (List.mem_cons_of_mem i hi')

theorem without_onPPOS : Without fault (l.onPPOS m args) := by
  refine without_setPositions fun i hi _ => ?_
  have hcount := List.mem_range.mp hi
  lia

theorem without_onKICK
    (h : fault = Fault.outOfRange -> 3 ≤ args.length) :
    Without fault (l.onKICK m args playerName) := by
  refine without_arg h (by lia) fun name => ?_
  exact without_leaveFound_iff.mpr fun _ => without_ok _

theorem without_onLOGOUT
    (h : fault = Fault.outOfRange -> 2 ≤ args.length) :
    Without fault (l.onLOGOUT m args) := by
  refine without_arg h (by lia) fun name =>
    without_updateFound fun party => ?_
  exact without_ok _

theorem without_onPROMOTE
    (h : fault = Fault.outOfRange -> 3 ≤ args.length) :
    Without fault (l.onPROMOTE m args) := by
  refine without_arg h (by lia) fun name =>
    without_updateFound fun party => ?_
  exact without_ok _

theorem without_onCommand {command : CharString}
    (hlogin : fault = Fault.absentMember -> l.loginResult.isSome)
    (hleave : command = ascii "LEAVE" -> 2 ≤ args.length ->
      Without fault (l.onLEAVE m args playerName))
    (hdestroy : command = ascii "DESTROY" -> Without fault (l.onDESTROY args)) :
    Without fault (l.onCommand m args playerName command) := by
  refine without_ite (fun h => without_onMINFO fun _ => h.right) fun _ => ?_
  refine without_ite (fun h => without_onRMINFO fun _ => h.right) fun _ => ?_
  refine without_ite (fun h => without_onMSINFO fun _ => h.right) fun _ => ?_
  refine without_ite (fun h => without_onSINFO fun _ => h.right) fun _ => ?_
  refine without_ite (fun h => without_onCHANGE_NAME fun _ => h.right)
    fun _ => ?_
  refine without_ite (fun h => without_onCHANGE_LEVEL fun _ => h.right)
    fun _ => ?_
  refine without_ite (fun h => without_onCHANGE_JOB fun _ => h.right)
    fun _ => ?_
  refine without_ite (fun h => without_onMODE (fun _ => h.right) hlogin)
    fun _ => ?_
  refine without_ite (fun h => without_onPINFO fun _ => h.right) fun _ => ?_
  refine without_ite (fun h => without_onLIST (fun _ => h.right) hlogin)
    fun _ => ?_
  refine without_ite (fun _ => without_onPPOS) fun _ => ?_
  refine without_ite (fun h => without_onKICK fun _ => h.right) fun _ => ?_
  refine without_ite (fun h => without_onLOGOUT fun _ => h.right) fun _ => ?_
  refine without_ite (fun h => hleave h.left h.right) fun _ => ?_
  refine without_ite (fun h => without_onPROMOTE fun _ => h.right) fun _ => ?_
  exact without_ite hdestroy fun _ => without_ok l

/-- Some party that is kept has a member of a name. -/
def KnowsMember (l : LocalPlayerData) (name : CharString) : Prop :=
  exists key party, l.partyInfoByName.lookup key = some party ∧
    party.hasMember name = true

theorem exists_findPartyByMember {name : CharString} :
    (exists e, l.findPartyByMember m name = some e) ↔ l.KnowsMember name :=
  UnorderedMap.Visit.exists_find?

theorem inBounds_onLEAVE_iff (h : 2 ≤ args.length) :
    InBounds (l.onLEAVE m args playerName) ↔
      (l.KnowsMember (args.getD 1 []) -> 3 ≤ args.length) := by
  rw [onLEAVE, inBounds_arg_iff, and_iff_right (show 1 < args.length by lia)]
  rw [InBounds, without_leaveFound_iff, exists_findPartyByMember]
  refine imp_congr Iff.rfl (inBounds_arg_iff.trans ?_)
  exact and_iff_left (without_pure _)

theorem inBounds_onDESTROY_iff :
    InBounds (l.onDESTROY args) ↔ 2 ≤ args.length := by
  rw [onDESTROY, inBounds_arg_iff]
  exact and_iff_left (without_pure _)

/-- What an invitation has to have, depending on what it says. -/
def InvitationComplete (m : Moment) (args : List CharString) : Prop :=
  2 ≤ args.length ∧
    (m.isKnownLocalPlayer (args.getD 1 []) = true ->
      4 ≤ args.length ∧
        ((fromChars (args.getD 3 [])).isSome = true -> 5 ≤ args.length))

theorem inBounds_onINVITE_iff :
    InBounds (onINVITE m args) ↔ InvitationComplete m args := by
  rw [onINVITE, inBounds_arg_iff, InvitationComplete]
  refine and_congr Iff.rfl ?_
  cases hknown : m.isKnownLocalPlayer (args.getD 1 []) with
  | false =>
      simp only [if_true]
      constructor
      · intro _ h
        cases h
      · intro _
        exact without_ok _
  | true =>
      simp only [Bool.true_eq_false, if_false, forall_const]
      rw [inBounds_arg_iff]
      refine and_congr Iff.rfl ?_
      cases hparty : fromChars (args.getD 3 []) with
      | none =>
          constructor
          · intro _ h
            cases h
          · intro _
            exact without_ok _
      | some partyId =>
          simp only [Option.isSome_some, forall_const]
          rw [inBounds_arg_iff]
          refine and_iff_left ?_
          split
          · exact without_ok _
          · exact without_ok _

/-- A command that reads what it may not have. -/
def CommandComplete (l : LocalPlayerData) (args : List CharString)
    (command : CharString) : Prop :=
  (command = ascii "LEAVE" -> 2 ≤ args.length ->
    l.KnowsMember (args.getD 1 []) -> 3 ≤ args.length) ∧
  (command = ascii "DESTROY" -> 2 ≤ args.length)

theorem inBounds_onCommand_iff {command : CharString} :
    InBounds (l.onCommand m args playerName command) ↔
      l.CommandComplete args command := by
  by_cases hleave : command = ascii "LEAVE"
  · subst hleave
    by_cases hlength : 2 ≤ args.length
    · have hcommand : l.onCommand m args playerName (ascii "LEAVE") =
          l.onLEAVE m args playerName := by
        simp [onCommand, ascii, hlength]
      rw [hcommand, inBounds_onLEAVE_iff hlength]
      constructor
      · intro h
        exact ⟨fun _ _ => h, fun h' => absurd h' (by decide)⟩
      · intro h
        exact h.left rfl hlength
    · have hcommand : l.onCommand m args playerName (ascii "LEAVE") =
          Except.ok l := by
        simp [onCommand, ascii, hlength]
      rw [hcommand]
      constructor
      · intro _
        exact ⟨fun _ h => absurd h hlength, fun h => absurd h (by decide)⟩
      · intro _
        exact without_ok l
  · by_cases hdestroy : command = ascii "DESTROY"
    · subst hdestroy
      have hcommand : l.onCommand m args playerName (ascii "DESTROY") =
          l.onDESTROY args := by
        simp [onCommand, ascii]
      rw [hcommand, inBounds_onDESTROY_iff]
      constructor
      · intro h
        exact ⟨fun h' => absurd h' (by decide), fun _ => h⟩
      · intro h
        exact h.right rfl
    · constructor
      · intro _
        exact ⟨fun h => absurd h hleave, fun h => absurd h hdestroy⟩
      · intro _
        refine without_onCommand (fun h => ?_) (fun h => absurd h hleave)
          fun h => absurd h hdestroy
        cases h

theorem knowsMember_rememberChat (packet : Record) (name : CharString) :
    (l.rememberChat packet).KnowsMember name ↔ l.KnowsMember name := by
  rw [rememberChat]
  split
  · exact Iff.rfl
  · exact Iff.rfl

/--
A party message has the arguments that are read: an invitation of a known
player, the name of a party that is destroyed, and a second name if a member
of a party leaves.
-/
def ArgumentsPresent (m : Moment) (l : LocalPlayerData)
    (packet : Record) : Prop :=
  (packet.integer "type" = CHAT_PARTY_SYSTEM ∨
    packet.integer "type" = CHAT_RAID_SYSTEM) ->
  forall command rest,
    stringSplit bar (packet.string "message") = command :: rest ->
    (command = ascii "INVITE" -> InvitationComplete m (command :: rest)) ∧
    l.CommandComplete (command :: rest) command

theorem onChat_inBounds_iff (m : Moment) (l : LocalPlayerData)
    (playerName : CharString) (packet : Record) :
    InBounds (l.onChat m playerName packet) ↔ ArgumentsPresent m l packet := by
  rw [onChat, ArgumentsPresent]
  split
  · rename_i htype
    rw [forall_prop_of_true htype]
    cases hsplit : stringSplit bar (packet.string "message") with
    | nil =>
        constructor
        · intro _ command rest h
          cases h
        · intro _
          exact without_ok _
    | cons command rest =>
        have hcommand : (l.rememberChat packet).CommandComplete
            (command :: rest) command ↔
              l.CommandComplete (command :: rest) command := by
          rw [CommandComplete, CommandComplete, knowsMember_rememberChat]
        rw [onParty]
        constructor
        · intro h command' rest' heq
          cases heq
          split at h
          · rename_i hinvite
            rw [inBounds_bind_pure, inBounds_onINVITE_iff] at h
            refine ⟨fun _ => h, ?_⟩
            rw [hinvite]
            exact ⟨fun h' => absurd h' (by decide),
              fun h' => absurd h' (by decide)⟩
          · rename_i hinvite
            rw [inBounds_bind_pure, inBounds_onCommand_iff, hcommand] at h
            exact ⟨fun h' => absurd h' hinvite, h⟩
        · intro h
          rcases h command rest rfl with ⟨hinvite, hcomplete⟩
          split
          · rename_i heq
            rw [inBounds_bind_pure, inBounds_onINVITE_iff]
            exact hinvite heq
          · rw [inBounds_bind_pure, inBounds_onCommand_iff, hcommand]
            exact hcomplete
  · rename_i htype
    constructor
    · intro _ h
      exact absurd h htype
    · intro _
      exact without_ok _

/-- A party is destroyed, but the message does not say which. -/
theorem not_inBounds_onChat :
    ¬InBounds (LocalPlayerData.create.onChat Moment.still []
      (partyMessage (ascii "DESTROY"))) := by
  intro h
  exact h rfl

end LocalPlayerData

end Mirror
end Rzu
