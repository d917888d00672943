import Rzu.Mirror.ChatBounds
import Rzu.Mirror.GameSession
import Rzu.Mirror.HandlerEffects

/-!
# Data that is not there yet

A session that is in game has a login result.  The list of title conditions is
different: a handler takes it to be there before any packet has brought it.
-/

namespace Rzu
namespace Mirror

open Library
open Core
open Packet

namespace LocalPlayerData

variable {m : Moment} {l : LocalPlayerData} {args : List CharString}
  {playerName : CharString}

theorem arg_present (i : Nat) : Without Fault.absentMember (arg args i) := by
  rw [arg]
  split
  · exact without_ok _
  · intro h
    cases h

theorem present_onINVITE : Without Fault.absentMember (onINVITE m args) := by
  refine without_bind (arg_present 1) fun name _ => ?_
  refine without_ite (fun _ => without_ok _) fun _ => ?_
  refine without_bind (arg_present 3) fun partyId _ => ?_
  split
  · exact without_ok _
  · refine without_bind (arg_present 4) fun password _ => ?_
    split
    · exact without_ok _
    · exact without_ok _

theorem present_onLEAVE :
    Without Fault.absentMember (l.onLEAVE m args playerName) := by
  refine without_bind (arg_present 1) fun name _ => ?_
  refine without_leaveFound_iff.mpr fun _ => ?_
  exact without_bind (arg_present 2) fun other _ => without_ok _

theorem present_onDESTROY :
    Without Fault.absentMember (l.onDESTROY args) :=
  without_bind (arg_present 1) fun _ _ => without_ok _

theorem present_onChat (packet : Record) (hlogin : l.loginResult.isSome) :
    Without Fault.absentMember (l.onChat m playerName packet) := by
  have hremember : (l.rememberChat packet).loginResult.isSome := by
    rw [rememberChat]
    split
    · exact hlogin
    · exact hlogin
  refine without_ite (fun _ => ?_) fun _ => without_ok _
  unfold onParty
  split
  · exact without_ok _
  · refine without_ite (fun _ => ?_) fun _ => ?_
    · exact without_bind_pure.mpr present_onINVITE
    · refine without_bind_pure.mpr ?_
      exact without_onCommand (fun _ => hremember)
        (fun _ _ => present_onLEAVE) fun _ => present_onDESTROY

end LocalPlayerData

namespace GameData

variable {m : Moment} {data data' : GameData} {packet : ServerPacket}
  {playerName : CharString}

theorem exists_loginResult (hlogin : data.loginHandle.isSome) :
    exists loginResult, data.localPlayer.loginResult = some loginResult := by
  rw [loginHandle, Option.isSome_map] at hlogin
  exact Option.isSome_iff_exists.mp hlogin

theorem present_updateLoginResult (hlogin : data.loginHandle.isSome)
    (change : Record -> Record) :
    Without Fault.absentMember (data.updateLoginResult change) := by
  rcases exists_loginResult hlogin with ⟨loginResult, heq⟩
  rw [updateLoginResult, heq]
  exact without_ok _

theorem present_onMove (hlogin : data.loginHandle.isSome) (packet : Record) :
    Without Fault.absentMember (data.onMove m packet) := by
  rcases exists_loginResult hlogin with ⟨loginResult, heq⟩
  refine without_ite (fun _ => ?_) fun _ => without_ok _
  rw [heq]
  exact without_ok _

theorem present_onSilentPacket (hlogin : data.loginHandle.isSome) :
    Without Fault.absentMember (data.onSilentPacket m packet) ↔
      (packet.changesTitleCondition = true ->
        data.hasTitleConditions = true) := by
  have hother : packet.changesTitleCondition = false ->
      Without Fault.absentMember (data.onSilentPacket m packet) := by
    intro hchanges
    cases packet with
    | TS_SC_MOVE p => exact present_onMove hlogin p
    | TS_SC_HPMP p =>
        exact without_ite (fun _ => present_updateLoginResult hlogin _)
          fun _ => without_ok _
    | TS_SC_REGEN_HPMP p =>
        exact without_ite (fun _ => present_updateLoginResult hlogin _)
          fun _ => without_ok _
    | TS_SC_CHANGE_NAME p =>
        exact without_ite (fun _ => present_updateLoginResult hlogin _)
          fun _ => without_ok _
    | TS_SC_HAIR_INFO p =>
        refine without_ite (fun _ => ?_) fun _ => without_ok _
        exact without_bind_pure.mpr (present_updateLoginResult hlogin _)
    | TS_SC_SKIN_INFO p =>
        exact without_ite (fun _ => present_updateLoginResult hlogin _)
          fun _ => without_ok _
    | TS_SC_WARP p => exact present_updateLoginResult hlogin _
    | TS_SC_CHANGE_TITLE_CONDITION p => cases hchanges
    | _ => exact without_ok _
  cases hchanges : packet.changesTitleCondition with
  | false =>
      constructor
      · intro _ h
        cases h
      · intro _
        exact hother hchanges
  | true =>
      rw [forall_prop_of_true rfl]
      cases packet with
      | TS_SC_CHANGE_TITLE_CONDITION p =>
          change Without _ (data.onChangeTitleCondition p) ↔ _
          rw [onChangeTitleCondition, hasTitleConditions]
          cases data.localPlayer.titleConditionList with
          | none =>
              constructor
              · intro h
                exact absurd rfl h
              · intro h
                cases h
          | some list =>
              constructor
              · intro _
                rfl
              · intro _
                exact without_ok _
      | _ => cases hchanges

theorem present_onPacketReceived (hlogin : data.loginHandle.isSome) :
    Without Fault.absentMember (data.onPacketReceived m playerName packet) ↔
      (packet.changesTitleCondition = true ->
        data.hasTitleConditions = true) := by
  by_cases hchat : exists p, packet = .TS_SC_CHAT p
  · rcases hchat with ⟨p, rfl⟩
    constructor
    · intro _ h
      cases h
    · intro _
      refine without_bind_pure.mpr (LocalPlayerData.present_onChat p ?_)
      rcases exists_loginResult hlogin with ⟨loginResult, heq⟩
      rw [heq]
      rfl
  · rw [onPacketReceived_silent fun p heq => hchat ⟨p, heq⟩,
      without_bind_pure, present_onSilentPacket hlogin]

/-!
## The title conditions
-/

theorem titles_updateCreature (h : Handle)
    (change : CreatureData -> CreatureData) :
    (data.updateCreature h change).hasTitleConditions =
      data.hasTitleConditions := by
  rw [updateCreature]
  split
  · rfl
  · rfl

theorem titles_updateLoginResult (change : Record -> Record) :
    Yields (fun data' : GameData =>
      data'.hasTitleConditions = data.hasTitleConditions)
      (data.updateLoginResult change) := by
  rw [updateLoginResult]
  split
  · exact yields_error _
  · exact yields_ok rfl

theorem titles_creature_ite {own : Except Fault GameData} {h : Handle}
    {change : CreatureData -> CreatureData}
    (hown : Yields (fun data' : GameData =>
      data'.hasTitleConditions = data.hasTitleConditions) own) :
    Yields (fun data' : GameData =>
      data'.hasTitleConditions = data.hasTitleConditions)
      (if h = data.getLocalPlayerServerHandle then own
        else Except.ok (data.updateCreature h change)) :=
  yields_ite (fun _ => hown) fun _ => yields_ok (titles_updateCreature h change)

theorem titles_onSilentPacket :
    Yields (fun data' : GameData => data'.hasTitleConditions =
      (packet.bringsTitleConditions || data.hasTitleConditions))
      (data.onSilentPacket m packet) := by
  cases packet with
  | TS_SC_ENTER p =>
      refine yields_ok ?_
      rw [onEnter]
      split
      · rfl
      · rfl
  | TS_SC_MOVE p =>
      refine titles_creature_ite ?_
      split
      · exact yields_error _
      · intro data' hok
        have htitles := titles_updateLoginResult _ data' hok
        exact htitles
  | TS_SC_HPMP p => exact titles_creature_ite (titles_updateLoginResult _)
  | TS_SC_REGEN_HPMP p =>
      exact titles_creature_ite (titles_updateLoginResult _)
  | TS_SC_CHANGE_NAME p =>
      exact titles_creature_ite (titles_updateLoginResult _)
  | TS_SC_SKIN_INFO p => exact titles_creature_ite (titles_updateLoginResult _)
  | TS_SC_HAIR_INFO p =>
      refine titles_creature_ite (yields_bind fun data' hok => ?_)
      exact yields_pure (titles_updateLoginResult _ data' hok)
  | TS_SC_ENERGY p =>
      refine yields_ok ?_
      rw [onEnergy]
      split
      · rfl
      · exact titles_updateCreature _ _
  | TS_SC_HIDE_EQUIP_INFO p =>
      refine yields_ok ?_
      rw [onHideEquipInfo]
      split
      · rfl
      · exact titles_updateCreature _ _
  | TS_SC_STATUS_CHANGE p =>
      refine yields_ok ?_
      rw [onStatusChange]
      split
      · rfl
      · exact titles_updateCreature _ _
  | TS_SC_WARP p => exact titles_updateLoginResult _
  | TS_SC_CHANGE_TITLE_CONDITION p =>
      change Yields _ (data.onChangeTitleCondition p)
      rw [onChangeTitleCondition]
      split
      · exact yields_error _
      · rename_i list hlist
        refine yields_ok ?_
        rw [hasTitleConditions, hasTitleConditions, hlist]
        rfl
  | TS_SC_PROPERTY p => exact yields_ok (titles_updateCreature _ _)
  | TS_SC_SKILL_LIST p => exact yields_ok (titles_updateCreature _ _)
  | TS_SC_ADDED_SKILL_LIST p => exact yields_ok (titles_updateCreature _ _)
  | TS_SC_WEAR_INFO p => exact yields_ok (titles_updateCreature _ _)
  | TS_SC_ITEM_WEAR_INFO p => exact yields_ok (titles_updateCreature _ _)
  | TS_SC_EXP_UPDATE p => exact yields_ok (titles_updateCreature _ _)
  | TS_SC_DETECT_RANGE_UPDATE p => exact yields_ok (titles_updateCreature _ _)
  | TS_SC_STATE p => exact yields_ok (titles_updateCreature _ _)
  | TS_SC_AURA p => exact yields_ok (titles_updateCreature _ _)
  | TS_SC_SET_MAIN_TITLE p => exact yields_ok (titles_updateCreature _ _)
  | TS_SC_SKILL p => exact yields_ok (titles_updateCreature _ _)
  | TS_SC_STAT_INFO p => exact yields_ok (titles_updateCreature _ _)
  | TS_SC_UNSUMMON_NOTICE p => exact yields_ok (titles_updateCreature _ _)
  | TS_SC_LEVEL_UPDATE p => exact yields_ok (titles_updateCreature _ _)
  | _ => exact yields_ok rfl

theorem titles_onPacketReceived :
    Yields (fun handled : GameData × List CharString =>
      handled.1.hasTitleConditions =
        (packet.bringsTitleConditions || data.hasTitleConditions))
      (data.onPacketReceived m playerName packet) := by
  by_cases hchat : exists p, packet = .TS_SC_CHAT p
  · rcases hchat with ⟨p, rfl⟩
    refine yields_bind fun handled hok => yields_pure ?_
    exact (frame_of_sameButParties
      (LocalPlayerData.yields_onChat p handled hok)).right
  · rw [onPacketReceived_silent fun p heq => hchat ⟨p, heq⟩]
    refine yields_bind fun data' hok => yields_pure ?_
    exact titles_onSilentPacket data' hok

end GameData

namespace GameSession

/-- What a connection has handled, while it is in game. -/
def handledAfter (handled : Option (List ServerPacket)) :
    SessionEvent -> Option (List ServerPacket)
  | .packet _ packet =>
      if packet.loggedIn?.isSome then some (handled.getD [] ++ [packet])
      else handled.map fun packets => packets ++ [packet]
  | .disconnectDesc => none
  | .gameDisconnected => none
  | .updateAllPositions _ => handled
  | .setProperty _ => handled

/-- The packets that the present connection has handled, if it is in game. -/
def connection (history : List SessionEvent) : Option (List ServerPacket) :=
  history.foldl handledAfter none

/-- A list of title conditions is among the packets. -/
def ListGiven (packets : List ServerPacket) : Prop :=
  exists packet, packet ∈ packets ∧ packet.bringsTitleConditions = true

structure Knows (handled : Option (List ServerPacket))
    (s : GameSession) : Prop where
  connected : s.connectedInGame = handled.isSome
  login : s.gameData.loginHandle.isSome = handled.isSome
  titles : s.gameData.hasTitleConditions = true ↔
    exists packets, handled = some packets ∧ ListGiven packets

section Knows

variable {handled : Option (List ServerPacket)} {s s' : GameSession}
  {playerName : CharString} {e : SessionEvent}

theorem knows_create : Knows none create where
  connected := rfl
  login := rfl
  titles := by
    constructor
    · intro h
      cases h
    · intro h
      rcases h with ⟨packets, hsome, -⟩
      cases hsome

theorem listGiven_append (packets : List ServerPacket)
    (packet : ServerPacket) :
    ListGiven (packets ++ [packet]) ↔
      packet.bringsTitleConditions = true ∨ ListGiven packets := by
  constructor
  · intro h
    rcases h with ⟨p, hmem, hbrings⟩
    rcases List.mem_append.mp hmem with hold | hnew
    · exact Or.inr ⟨p, hold, hbrings⟩
    · rw [List.mem_singleton.mp hnew] at hbrings
      exact Or.inl hbrings
  · intro h
    rcases h with hbrings | ⟨p, hmem, hbrings⟩
    · exact ⟨packet, List.mem_append_right _ (List.mem_singleton_self _),
        hbrings⟩
    · exact ⟨p, List.mem_append_left _ hmem, hbrings⟩

theorem Knows.disconnect (h : Knows handled s) :
    Knows none (s.setConnected false) := by
  cases hconnected : s.connectedInGame with
  | true =>
      have hclear : s.setConnected false = create := by
        rw [setConnected, hconnected]
        rfl
      rw [hclear]
      exact knows_create
  | false =>
      have hkeep : s.setConnected false = s := by
        rw [setConnected, if_neg (by simp [hconnected]), ← hconnected]
      have hnone : handled = none := by
        rw [← Option.not_isSome_iff_eq_none, ← h.connected, hconnected]
        exact Bool.false_ne_true
      rw [hkeep, ← hnone]
      exact h

theorem onGamePacketReceived_eq (m : Moment) (packet : ServerPacket) :
    s.onGamePacketReceived playerName m packet =
      if packet.loggedIn?.isSome ∨ s.connectedInGame = true then do
        let handled <- s.gameData.onPacketReceived m playerName packet
        pure ({ connectedInGame := true, gameData := handled.1 }, handled.2)
      else Except.ok (s, []) := by
  rw [onGamePacketReceived]
  by_cases hlogin : packet.loggedIn?.isSome = true
  · rw [if_pos (Or.inl hlogin)]
    cases packet with
    | TS_SC_LOGIN_RESULT p => rfl
    | _ => cases hlogin
  · have hsame : s.connectFor packet = s := by
      cases packet with
      | TS_SC_LOGIN_RESULT p => exact absurd rfl hlogin
      | _ => rfl
    rw [hsame]
    cases hconnected : s.connectedInGame with
    | true =>
        rw [if_pos rfl, if_pos (Or.inr rfl)]
        cases s
        cases hconnected
        rfl
    | false =>
        rw [if_neg Bool.false_ne_true,
          if_neg (not_or.mpr ⟨hlogin, Bool.false_ne_true⟩)]

theorem Knows.handle {data' : GameData} {packet : ServerPacket}
    (h : Knows handled s)
    (hin : packet.loggedIn?.isSome = true ∨ s.connectedInGame = true)
    (hlogin : data'.loginHandle = packet.loggedIn?.or s.gameData.loginHandle)
    (htitles : data'.hasTitleConditions =
      (packet.bringsTitleConditions || s.gameData.hasTitleConditions)) :
    Knows (some (handled.getD [] ++ [packet]))
      { connectedInGame := true, gameData := data' } where
  connected := rfl
  login := by
    rw [hlogin]
    rcases hin with hlogged | hconnected
    · rw [Option.isSome_or, hlogged]
      rfl
    · rw [Option.isSome_or, h.login, ← h.connected, hconnected]
      exact Bool.or_true _
  titles := by
    change data'.hasTitleConditions = true ↔ _
    rw [htitles, Bool.or_eq_true, h.titles]
    constructor
    · intro hgiven
      refine ⟨_, rfl, (listGiven_append _ _).mpr ?_⟩
      rcases hgiven with hbrings | ⟨packets, hsome, hlist⟩
      · exact Or.inl hbrings
      · rw [hsome]
        exact Or.inr hlist
    · intro hgiven
      rcases hgiven with ⟨packets, hsome, hlist⟩
      cases hsome
      rcases (listGiven_append _ _).mp hlist with hbrings | hold
      · exact Or.inl hbrings
      · cases handled with
        | none =>
            rcases hold with ⟨p, hmem, -⟩
            cases hmem
        | some packets => exact Or.inr ⟨packets, rfl, hold⟩

theorem Knows.step (h : Knows handled s) (hstep : Step playerName s e s') :
    Knows (handledAfter handled e) s' := by
  rcases hstep with ⟨answers, hok⟩
  cases e with
  | packet m packet =>
      change s.onGamePacketReceived playerName m packet = _ at hok
      rw [onGamePacketReceived_eq] at hok
      by_cases hin : packet.loggedIn?.isSome = true ∨ s.connectedInGame = true
      · rw [if_pos hin] at hok
        cases hpacket : s.gameData.onPacketReceived m playerName packet with
        | error fault =>
            rw [hpacket] at hok
            cases hok
        | ok handled' =>
            rw [hpacket] at hok
            cases hok
            have hknows := h.handle hin
              (GameData.yields_onPacketReceived packet _ hpacket).login_eq
              (GameData.titles_onPacketReceived _ hpacket)
            rw [handledAfter]
            split
            · exact hknows
            · rename_i hlogged
              have hsome : handled.isSome = true := by
                rw [← h.connected]
                exact hin.resolve_left hlogged
              rcases Option.isSome_iff_exists.mp hsome with ⟨packets, rfl⟩
              exact hknows
      · rw [if_neg hin] at hok
        cases hok
        rw [not_or] at hin
        have hnone : handled = none := by
          rw [← Option.not_isSome_iff_eq_none, ← h.connected]
          exact hin.right
        rw [handledAfter, if_neg hin.left, hnone]
        rw [hnone] at h
        exact h
  | disconnectDesc =>
      cases hok
      exact h.disconnect
  | gameDisconnected =>
      cases hok
      exact h.disconnect
  | updateAllPositions m =>
      cases hok
      refine ⟨h.connected, ?_, ?_⟩
      · refine Eq.trans ?_ h.login
        change (s.gameData.updateAllPositions m).loginHandle.isSome = _
        rw [GameData.updateAllPositions]
        split
        · rfl
        · rename_i loginResult heq
          rw [GameData.loginHandle, GameData.loginHandle, heq]
          rfl
      · refine Iff.trans ?_ h.titles
        change (s.gameData.updateAllPositions m).hasTitleConditions = _ ↔ _
        rw [GameData.updateAllPositions]
        split
        · exact Iff.rfl
        · exact Iff.rfl
  | setProperty packet =>
      cases hok
      exact ⟨h.connected, h.login, h.titles⟩

theorem knows_of_run {history : List SessionEvent}
    (hrun : Run (Step playerName) create history s) :
    Knows (connection history) s := by
  apply Run.history_invariant (h := hrun)
  · exact knows_create
  · intro history s e s' hknows hstep
    rw [connection, List.foldl_append]
    exact hknows.step hstep

theorem Knows.present_packet (h : Knows handled s) (m : Moment)
    (packet : ServerPacket) :
    Without Fault.absentMember (s.next playerName (.packet m packet)) ↔
      (packet.changesTitleCondition = true ->
        forall packets, handled = some packets -> ListGiven packets) := by
  change Without _ (s.onGamePacketReceived playerName m packet) ↔ _
  rw [onGamePacketReceived_eq]
  by_cases hconnected : s.connectedInGame = true
  · have hlogin : s.gameData.loginHandle.isSome := by
      rw [h.login, ← h.connected]
      exact hconnected
    rw [if_pos (Or.inr hconnected), without_bind_pure,
      GameData.present_onPacketReceived hlogin, h.titles]
    rw [h.connected] at hconnected
    rcases Option.isSome_iff_exists.mp hconnected with ⟨packets, rfl⟩
    refine imp_congr Iff.rfl ?_
    constructor
    · intro hgiven packets' heq
      rcases hgiven with ⟨packets'', heq', hlist⟩
      cases heq
      cases heq'
      exact hlist
    · intro hgiven
      exact ⟨packets, rfl, hgiven packets rfl⟩
  · have hnone : handled = none := by
      rw [← Option.not_isSome_iff_eq_none, ← h.connected]
      exact hconnected
    constructor
    · intro _ _ packets heq
      rw [hnone] at heq
      cases heq
    · intro _
      refine without_ite (fun hin => ?_) fun _ => without_ok _
      have hlogged := hin.resolve_right hconnected
      refine without_bind_pure.mpr ?_
      cases packet with
      | TS_SC_LOGIN_RESULT p => exact without_ok _
      | _ => cases hlogged

end Knows

def UsesNoAbsentMember (playerName : CharString)
    (events : List SessionEvent) : Prop :=
  forall before e after s, events = before ++ e :: after ->
    Run (Step playerName) create before s ->
    Without Fault.absentMember (s.next playerName e)

/--
A title condition is changed only by a connection that has handled a list of
title conditions.
-/
def TitleConditionsListed (playerName : CharString)
    (events : List SessionEvent) : Prop :=
  forall before m packet after packets s,
    events = before ++ .packet m packet :: after ->
    Run (Step playerName) create before s ->
    packet.changesTitleCondition = true ->
    connection before = some packets -> ListGiven packets

theorem usesNoAbsentMember_iff (playerName : CharString)
    (events : List SessionEvent) :
    UsesNoAbsentMember playerName events ↔
      TitleConditionsListed playerName events := by
  constructor
  · intro h before m packet after packets s heq hrun hchanges hhandled
    exact ((knows_of_run hrun).present_packet m packet).mp
      (h before _ after s heq hrun) hchanges packets hhandled
  · intro h before e after s heq hrun
    cases e with
    | packet m packet =>
        refine ((knows_of_run hrun).present_packet m packet).mpr ?_
        intro hchanges packets hhandled
        exact h before m packet after packets s heq hrun hchanges hhandled
    | _ => exact without_ok _

/-- A title condition changes as soon as the player is in game. -/
theorem not_usesNoAbsentMember :
    ¬UsesNoAbsentMember []
      [.packet Moment.still (.TS_SC_LOGIN_RESULT Record.zero),
        .packet Moment.still (.TS_SC_CHANGE_TITLE_CONDITION Record.zero)] := by
  intro h
  refine h [_] _ [] _ rfl (Run.snoc Run.nil ⟨[], rfl⟩) ?_
  rfl

end GameSession

end Mirror
end Rzu
