import Rzu.Library.Outcome
import Rzu.Mirror.ConnectionToServer

/-!
# What handlers change

Most handlers change one creature, or keep the creatures, the items and the
player's handle as they are.
-/

namespace Rzu
namespace Mirror

open Library
open Core
open Packet

namespace ServerPacket

/-- The creature that `getCreatureData` is asked for. -/
def creature? : ServerPacket -> Option Handle
  | .TS_SC_PROPERTY packet => some (packet.integer "handle")
  | .TS_SC_SKILL_LIST packet => some (packet.integer "target")
  | .TS_SC_ADDED_SKILL_LIST packet => some (packet.integer "target")
  | .TS_SC_WEAR_INFO packet => some (packet.integer "handle")
  | .TS_SC_ITEM_WEAR_INFO packet => some (packet.integer "target_handle")
  | .TS_SC_EXP_UPDATE packet => some (packet.integer "handle")
  | .TS_SC_DETECT_RANGE_UPDATE packet => some (packet.integer "handle")
  | .TS_SC_STATE packet => some (packet.integer "handle")
  | .TS_SC_MOVE packet => some (packet.integer "handle")
  | .TS_SC_AURA packet => some (packet.integer "caster")
  | .TS_SC_SET_MAIN_TITLE packet => some (packet.integer "handle")
  | .TS_SC_SKILL packet => some (packet.integer "caster")
  | .TS_SC_STAT_INFO packet => some (packet.integer "handle")
  | .TS_SC_UNSUMMON_NOTICE packet => some (packet.integer "summon_handle")
  | .TS_SC_LEVEL_UPDATE packet => some (packet.integer "handle")
  | .TS_SC_ENERGY packet => some (packet.integer "handle")
  | .TS_SC_HPMP packet => some (packet.integer "handle")
  | .TS_SC_REGEN_HPMP packet => some (packet.integer "handle")
  | .TS_SC_CHANGE_NAME packet => some (packet.integer "handle")
  | .TS_SC_HAIR_INFO packet => some (packet.integer "hPlayer")
  | .TS_SC_SKIN_INFO packet => some (packet.integer "handle")
  | .TS_SC_HIDE_EQUIP_INFO packet => some (packet.integer "hPlayer")
  | .TS_SC_STATUS_CHANGE packet => some (packet.integer "handle")
  | _ => none

def counted? : ServerPacket -> Option Handle
  | .TS_SC_UPDATE_ITEM_COUNT packet =>
      if packet.integer "count" ≠ 0 then some (packet.integer "item_handle")
      else none
  | _ => none

def loggedIn? : ServerPacket -> Option Handle
  | .TS_SC_LOGIN_RESULT packet => some (packet.integer "handle")
  | _ => none

/-- The creature that comes into sight. -/
def entering? : ServerPacket -> Option Handle
  | .TS_SC_ENTER packet => some (packet.integer "handle")
  | _ => none

/-- The creature that goes out of sight. -/
def leaving? : ServerPacket -> Option Handle
  | .TS_SC_LEAVE packet => some (packet.integer "handle")
  | _ => none

/-- The packet brings the list of title conditions. -/
def bringsTitleConditions : ServerPacket -> Bool
  | .TS_SC_TITLE_CONDITION_LIST _ => true
  | _ => false

def changesTitleCondition : ServerPacket -> Bool
  | .TS_SC_CHANGE_TITLE_CONDITION _ => true
  | _ => false

end ServerPacket

namespace GameData

/-- The player's handle, once there is a login result. -/
def loginHandle (data : GameData) : Option Handle :=
  data.localPlayer.loginResult.map fun loginResult =>
    loginResult.integer "handle"

def hasTitleConditions (data : GameData) : Bool :=
  data.localPlayer.titleConditionList.isSome

theorem getLocalPlayerServerHandle_eq (data : GameData) :
    data.getLocalPlayerServerHandle = data.loginHandle.getD 0 := by
  rw [getLocalPlayerServerHandle, loginHandle]
  split
  · rename_i h
    rw [h]
    rfl
  · rename_i h
    rw [h]
    rfl

/-- The creatures, the items and the player's handle stay as they are. -/
structure Frame (data data' : GameData) : Prop where
  creatures : data'.creaturesData = data.creaturesData
  items : data'.localPlayer.itemsByHandle = data.localPlayer.itemsByHandle
  login : data'.loginHandle = data.loginHandle

theorem Frame.trans {data data' data'' : GameData} (h : Frame data data')
    (h' : Frame data' data'') : Frame data data'' where
  creatures := h'.creatures.trans h.creatures
  items := h'.items.trans h.items
  login := h'.login.trans h.login

/-- What a packet does to the creatures, the items and the player. -/
inductive Effect (data : GameData) : ServerPacket -> GameData -> Prop where
  | quiet {packet : ServerPacket} {data' : GameData}
      (hcreature : packet.creature? = none) (hcounted : packet.counted? = none)
      (hloggedIn : packet.loggedIn? = none)
      (hentering : packet.entering? = none) (hleaving : packet.leaving? = none)
      (hframe : Frame data data') : Effect data packet data'
  | player {packet : ServerPacket} {data' : GameData}
      (hcreature : packet.creature? = some data.getLocalPlayerServerHandle)
      (hframe : Frame data data') : Effect data packet data'
  | creature {packet : ServerPacket} {h : Handle}
      {change : CreatureData -> CreatureData}
      (hcreature : packet.creature? = some h)
      (hother : h ≠ data.getLocalPlayerServerHandle)
      (hchange : forall c, (change c).handle = c.handle) :
      Effect data packet (data.updateCreature h change)
  | enter (packet : Record) :
      Effect data (.TS_SC_ENTER packet) (data.onEnter packet)
  | leave (packet : Record) :
      Effect data (.TS_SC_LEAVE packet) (data.onLeave packet)
  | login (packet : Record) :
      Effect data (.TS_SC_LOGIN_RESULT packet) (data.onLoginResult packet)
  | inventory (packet : Record) :
      Effect data (.TS_SC_INVENTORY packet) (data.onInventory packet)
  | count (packet : Record) :
      Effect data (.TS_SC_UPDATE_ITEM_COUNT packet)
        (data.onUpdateItemCount packet)
  | destroy (packet : Record) :
      Effect data (.TS_SC_DESTROY_ITEM packet) (data.onDestroyItem packet)

section Effect

variable {m : Moment} {data data' : GameData} {packet : ServerPacket}
  {h : Handle} {change : CreatureData -> CreatureData}

theorem frame_updateCreature (hown : h = data.getLocalPlayerServerHandle) :
    Frame data (data.updateCreature h change) := by
  rw [updateCreature, if_pos hown]
  exact ⟨rfl, rfl, rfl⟩

theorem effect_updateCreature (hcreature : packet.creature? = some h)
    (hchange : forall c, (change c).handle = c.handle) :
    Effect data packet (data.updateCreature h change) := by
  by_cases hown : h = data.getLocalPlayerServerHandle
  · exact Effect.player (hown ▸ hcreature) (frame_updateCreature hown)
  · exact Effect.creature hcreature hown hchange

theorem yields_effect_ite {own : Except Fault GameData}
    (hcreature : packet.creature? = some h)
    (hown : Yields (Frame data) own)
    (hchange : forall c, (change c).handle = c.handle) :
    Yields (Effect data packet)
      (if h = data.getLocalPlayerServerHandle then own
        else Except.ok (data.updateCreature h change)) := by
  refine yields_ite (fun heq => ?_) fun hne => ?_
  · intro data' hok
    exact Effect.player (heq ▸ hcreature) (hown data' hok)
  · exact yields_ok (Effect.creature hcreature hne hchange)

theorem yields_updateLoginResult {change : Record -> Record}
    (hchange : forall r, (change r).integer "handle" = r.integer "handle") :
    Yields (Frame data) (data.updateLoginResult change) := by
  rw [updateLoginResult]
  split
  · exact yields_error _
  · rename_i loginResult hlogin
    refine yields_ok ⟨rfl, rfl, ?_⟩
    change some ((change loginResult).integer "handle") = _
    rw [loginHandle, hlogin, hchange]
    rfl

theorem handle_updateOwnPosition (creature : CreatureData) :
    (updateOwnPosition m creature).handle = creature.handle := by
  have hnow : forall x y : Int,
      (updateCreaturePosition m creature x y).1.enterInfo =
        creature.enterInfo := by
    intro x y
    rw [updateCreaturePosition]
    split
    · rfl
    · rfl
  rw [updateOwnPosition]
  simp only [CreatureData.handle, hnow, Record.integer_setInteger]
  simp

theorem yields_onMove (packet : Record) :
    Yields (Effect data (.TS_SC_MOVE packet)) (data.onMove m packet) := by
  refine yields_effect_ite rfl ?_ ?_
  · split
    · exact yields_error _
    · rename_i loginResult hlogin
      intro data' hok
      refine Frame.trans ?_ (yields_updateLoginResult ?_ data' hok)
      · refine ⟨rfl, rfl, ?_⟩
        rw [loginHandle, loginHandle, hlogin]
        rfl
      · intro r
        rfl
  · intro creature
    exact handle_updateOwnPosition creature

theorem yields_onHairInfo (packet : Record) :
    Yields (Effect data (.TS_SC_HAIR_INFO packet))
      (data.onHairInfo packet) := by
  refine yields_effect_ite rfl ?_ fun _ => rfl
  refine yields_bind fun data' hok => yields_ok ?_
  refine (yields_updateLoginResult ?_ data' hok).trans ⟨rfl, rfl, rfl⟩
  intro r
  rfl

theorem yields_quiet (hcreature : packet.creature? = none)
    (hcounted : packet.counted? = none) (hloggedIn : packet.loggedIn? = none)
    (hentering : packet.entering? = none) (hleaving : packet.leaving? = none)
    (hframe : Frame data data') :
    Yields (Effect data packet) (Except.ok data' : Except Fault GameData) :=
  yields_ok (Effect.quiet hcreature hcounted hloggedIn hentering hleaving
    hframe)

theorem yields_onSilentPacket (hchat : forall p, packet ≠ .TS_SC_CHAT p) :
    Yields (Effect data packet) (data.onSilentPacket m packet) := by
  cases packet with
  | TS_SC_ENTER p => exact yields_ok (Effect.enter p)
  | TS_SC_LEAVE p => exact yields_ok (Effect.leave p)
  | TS_SC_PROPERTY p =>
      refine yields_ok (effect_updateCreature rfl fun creature => ?_)
      simp only [CreatureData.handle]
      split
      · rfl
      · rfl
  | TS_SC_SKILL_LIST p =>
      exact yields_ok (effect_updateCreature rfl fun _ => rfl)
  | TS_SC_ADDED_SKILL_LIST p =>
      exact yields_ok (effect_updateCreature rfl fun _ => rfl)
  | TS_SC_WEAR_INFO p =>
      exact yields_ok (effect_updateCreature rfl fun _ => rfl)
  | TS_SC_ITEM_WEAR_INFO p =>
      exact yields_ok (effect_updateCreature rfl fun _ => rfl)
  | TS_SC_EXP_UPDATE p =>
      exact yields_ok (effect_updateCreature rfl fun _ => rfl)
  | TS_SC_DETECT_RANGE_UPDATE p =>
      exact yields_ok (effect_updateCreature rfl fun _ => rfl)
  | TS_SC_STATE p =>
      exact yields_ok (effect_updateCreature rfl fun _ => rfl)
  | TS_SC_MOVE p => exact yields_onMove p
  | TS_SC_AURA p =>
      exact yields_ok (effect_updateCreature rfl fun _ => rfl)
  | TS_SC_SET_MAIN_TITLE p =>
      exact yields_ok (effect_updateCreature rfl fun _ => rfl)
  | TS_SC_SKILL p =>
      exact yields_ok (effect_updateCreature rfl fun _ => rfl)
  | TS_SC_STAT_INFO p =>
      refine yields_ok (effect_updateCreature rfl fun creature => ?_)
      simp only [CreatureData.handle]
      split
      · rfl
      · rfl
  | TS_SC_UNSUMMON_NOTICE p =>
      exact yields_ok (effect_updateCreature rfl fun _ => rfl)
  | TS_SC_LEVEL_UPDATE p =>
      exact yields_ok (effect_updateCreature rfl fun _ => rfl)
  | TS_SC_ENERGY p =>
      by_cases hown : p.integer "handle" = data.getLocalPlayerServerHandle
      · refine yields_ok (Effect.player (congrArg some hown) ?_)
        rw [onEnergy, if_pos hown]
        exact ⟨rfl, rfl, rfl⟩
      · refine yields_ok ?_
        rw [onEnergy, if_neg hown]
        exact Effect.creature rfl hown fun _ => rfl
  | TS_SC_HPMP p =>
      exact yields_effect_ite rfl
        (yields_updateLoginResult fun _ => rfl) fun _ => rfl
  | TS_SC_REGEN_HPMP p =>
      exact yields_effect_ite rfl
        (yields_updateLoginResult fun _ => rfl) fun _ => rfl
  | TS_SC_CHANGE_NAME p =>
      exact yields_effect_ite rfl
        (yields_updateLoginResult fun _ => rfl) fun _ => rfl
  | TS_SC_HAIR_INFO p => exact yields_onHairInfo p
  | TS_SC_SKIN_INFO p =>
      exact yields_effect_ite rfl
        (yields_updateLoginResult fun _ => rfl) fun _ => rfl
  | TS_SC_HIDE_EQUIP_INFO p =>
      by_cases hown : p.integer "hPlayer" = data.getLocalPlayerServerHandle
      · refine yields_ok (Effect.player (congrArg some hown) ?_)
        rw [onHideEquipInfo, if_pos hown]
        exact ⟨rfl, rfl, rfl⟩
      · refine yields_ok ?_
        rw [onHideEquipInfo, if_neg hown]
        exact Effect.creature rfl hown fun _ => rfl
  | TS_SC_STATUS_CHANGE p =>
      by_cases hown : p.integer "handle" = data.getLocalPlayerServerHandle
      · refine yields_ok (Effect.player (congrArg some hown) ?_)
        rw [onStatusChange, if_pos hown]
        exact ⟨rfl, rfl, rfl⟩
      · refine yields_ok ?_
        rw [onStatusChange, if_neg hown]
        exact Effect.creature rfl hown fun _ => rfl
  | TS_SC_LOGIN_RESULT p => exact yields_ok (Effect.login p)
  | TS_SC_CHAT p => exact absurd rfl (hchat p)
  | TS_SC_ADD_SUMMON_INFO p =>
      exact yields_quiet rfl rfl rfl rfl rfl ⟨rfl, rfl, rfl⟩
  | TS_SC_REMOVE_SUMMON_INFO p =>
      exact yields_quiet rfl rfl rfl rfl rfl ⟨rfl, rfl, rfl⟩
  | TS_SC_ADD_PET_INFO p =>
      exact yields_quiet rfl rfl rfl rfl rfl ⟨rfl, rfl, rfl⟩
  | TS_SC_REMOVE_PET_INFO p =>
      exact yields_quiet rfl rfl rfl rfl rfl ⟨rfl, rfl, rfl⟩
  | TS_SC_INVENTORY p => exact yields_ok (Effect.inventory p)
  | TS_SC_SKILLCARD_INFO p =>
      exact yields_quiet rfl rfl rfl rfl rfl ⟨rfl, rfl, rfl⟩
  | TS_EQUIP_SUMMON p => exact yields_quiet rfl rfl rfl rfl rfl ⟨rfl, rfl, rfl⟩
  | TS_SC_GOLD_UPDATE p =>
      exact yields_quiet rfl rfl rfl rfl rfl ⟨rfl, rfl, rfl⟩
  | TS_SC_BELT_SLOT_INFO p =>
      exact yields_quiet rfl rfl rfl rfl rfl ⟨rfl, rfl, rfl⟩
  | TS_SC_BATTLE_ARENA_PENALTY_INFO p =>
      exact yields_quiet rfl rfl rfl rfl rfl ⟨rfl, rfl, rfl⟩
  | TS_SC_QUEST_LIST p => exact yields_quiet rfl rfl rfl rfl rfl ⟨rfl, rfl, rfl⟩
  | TS_SC_TITLE_LIST p => exact yields_quiet rfl rfl rfl rfl rfl ⟨rfl, rfl, rfl⟩
  | TS_SC_TITLE_CONDITION_LIST p =>
      exact yields_quiet rfl rfl rfl rfl rfl ⟨rfl, rfl, rfl⟩
  | TS_SC_REMAIN_TITLE_TIME p =>
      exact yields_quiet rfl rfl rfl rfl rfl ⟨rfl, rfl, rfl⟩
  | TS_SC_SET_SUB_TITLE p =>
      exact yields_quiet rfl rfl rfl rfl rfl ⟨rfl, rfl, rfl⟩
  | TS_SC_WARP p =>
      have hframe : Yields (Frame data) (data.onWarp p) := by
        refine yields_updateLoginResult ?_
        intro r
        rfl
      intro data' hok
      exact Effect.quiet rfl rfl rfl rfl rfl (hframe data' hok)
  | TS_SC_CHANGE_TITLE_CONDITION p =>
      have hframe : Yields (Frame data) (data.onChangeTitleCondition p) := by
        rw [onChangeTitleCondition]
        split
        · exact yields_error _
        · exact yields_ok ⟨rfl, rfl, rfl⟩
      intro data' hok
      exact Effect.quiet rfl rfl rfl rfl rfl (hframe data' hok)
  | TS_SC_UPDATE_ITEM_COUNT p => exact yields_ok (Effect.count p)
  | TS_SC_DESTROY_ITEM p => exact yields_ok (Effect.destroy p)
  | other p => exact yields_quiet rfl rfl rfl rfl rfl ⟨rfl, rfl, rfl⟩

theorem loggedIn?_of_creature (hcreature : packet.creature? = some h) :
    packet.loggedIn? = none := by
  cases packet with
  | TS_SC_LOGIN_RESULT p => cases hcreature
  | _ => rfl

theorem loginHandle_updateCreature :
    (data.updateCreature h change).loginHandle = data.loginHandle := by
  rw [updateCreature]
  split
  · rfl
  · rfl

theorem Effect.login_eq (heffect : Effect data packet data') :
    data'.loginHandle = packet.loggedIn?.or data.loginHandle := by
  cases heffect with
  | quiet hcreature hcounted hloggedIn hentering hleaving hframe =>
      rw [hloggedIn]
      exact hframe.login
  | player hcreature hframe =>
      rw [loggedIn?_of_creature hcreature]
      exact hframe.login
  | creature hcreature hother hchange =>
      rw [loggedIn?_of_creature hcreature]
      exact loginHandle_updateCreature
  | enter p =>
      rw [onEnter]
      split
      · rfl
      · rfl
  | leave p => rfl
  | login p => rfl
  | inventory p => rfl
  | count p => rfl
  | destroy p => rfl

end Effect

end GameData

/-!
## Party messages
-/

namespace LocalPlayerData

/-- Only the parties differ. -/
def SameButParties (l l' : LocalPlayerData) : Prop :=
  l' = { l with partyInfoByName := l'.partyInfoByName }

variable {m : Moment} {l l' l'' : LocalPlayerData} {args : List CharString}
  {playerName : CharString}
  {found : Option (Sigma fun _ : CharString => PartyInfo)}

theorem SameButParties.refl (l : LocalPlayerData) : SameButParties l l := rfl

theorem SameButParties.trans (h : SameButParties l l')
    (h' : SameButParties l' l'') : SameButParties l l'' := by
  rw [SameButParties] at h h' ⊢
  rw [h', h]

theorem same_setParty (key : CharString) (party : PartyInfo) :
    SameButParties l (l.setParty key party) := rfl

theorem same_eraseParty (key : CharString) :
    SameButParties l (l.eraseParty key) := rfl

theorem same_updateFound {change : PartyInfo -> Except Fault PartyInfo} :
    Yields (SameButParties l) (l.updateFound found change) := by
  cases found with
  | none => exact yields_ok (SameButParties.refl l)
  | some e => exact yields_bind fun party _ => yields_pure (same_setParty _ _)

theorem same_leaveFound {name : CharString} {isSelf : Except Fault Bool} :
    Yields (SameButParties l) (l.leaveFound found name isSelf) := by
  cases found with
  | none => exact yields_ok (SameButParties.refl l)
  | some e =>
      refine yields_bind fun self _ => yields_pure ?_
      split
      · exact same_eraseParty _
      · exact same_setParty _ _

theorem same_onPINFO : Yields (SameButParties l) (l.onPINFO args) := by
  refine yields_bind fun _ _ => yields_bind fun _ _ => ?_
  refine yields_bind fun _ _ => yields_bind fun _ _ => ?_
  refine yields_bind fun _ _ => yields_bind fun _ _ => ?_
  refine yields_bind fun _ _ => yields_bind fun _ _ => ?_
  exact yields_pure (same_setParty _ _)

theorem same_setPositions {indexes : List Nat} :
    Yields (SameButParties l) (setPositions m args indexes l) := by
  induction indexes generalizing l with
  | nil => exact yields_ok (SameButParties.refl l)
  | cons i rest ih =>
      refine yields_bind fun handle _ => ?_
      split
      · exact yields_ok (SameButParties.refl l)
      · rename_i e hfound
        refine yields_bind fun party _ => ?_
        intro l' hok
        exact (same_setParty (l := l) e.1 party).trans (ih l' hok)

theorem same_onDESTROY : Yields (SameButParties l) (l.onDESTROY args) := by
  refine yields_bind fun partyName _ => yields_pure ?_
  split
  · exact SameButParties.refl l
  · exact same_eraseParty _

theorem same_onCommand (command : CharString) :
    Yields (SameButParties l) (l.onCommand m args playerName command) := by
  have hname : forall {i : Nat}
      {f : CharString -> Option (Sigma fun _ : CharString => PartyInfo)}
      {change : CharString -> PartyInfo -> Except Fault PartyInfo},
      Yields (SameButParties l) (arg args i >>= fun name =>
        l.updateFound (f name) (change name)) :=
    yields_bind fun _ _ => same_updateFound
  refine yields_ite (fun _ => hname) fun _ => ?_
  refine yields_ite (fun _ => hname) fun _ => ?_
  refine yields_ite (fun _ => hname) fun _ => ?_
  refine yields_ite (fun _ => hname) fun _ => ?_
  refine yields_ite (fun _ => hname) fun _ => ?_
  refine yields_ite (fun _ => hname) fun _ => ?_
  refine yields_ite (fun _ => hname) fun _ => ?_
  refine yields_ite (fun _ => yields_bind fun _ _ => same_updateFound)
    fun _ => ?_
  refine yields_ite (fun _ => same_onPINFO) fun _ => ?_
  refine yields_ite (fun _ => yields_bind fun _ _ => same_updateFound)
    fun _ => ?_
  refine yields_ite (fun _ => same_setPositions) fun _ => ?_
  refine yields_ite (fun _ => yields_bind fun _ _ => same_leaveFound)
    fun _ => ?_
  refine yields_ite (fun _ => hname) fun _ => ?_
  refine yields_ite (fun _ => yields_bind fun _ _ => same_leaveFound)
    fun _ => ?_
  refine yields_ite (fun _ => hname) fun _ => ?_
  refine yields_ite (fun _ => same_onDESTROY) fun _ => ?_
  exact yields_ok (SameButParties.refl l)

theorem yields_onChat (packet : Record) :
    Yields (fun handled : LocalPlayerData × List CharString =>
      SameButParties (l.rememberChat packet) handled.1)
      (l.onChat m playerName packet) := by
  refine yields_ite (fun _ => ?_) fun _ => yields_ok (SameButParties.refl _)
  unfold onParty
  split
  · exact yields_ok (SameButParties.refl _)
  · refine yields_ite (fun _ => ?_) fun _ => ?_
    · exact yields_bind fun _ _ => yields_pure (SameButParties.refl _)
    · refine yields_bind fun l' hok => yields_pure ?_
      exact same_onCommand _ l' hok

end LocalPlayerData

namespace GameData

variable {m : Moment} {data : GameData} {playerName : CharString}

theorem frame_of_sameButParties {l : LocalPlayerData} {packet : Record}
    (h : LocalPlayerData.SameButParties
      (data.localPlayer.rememberChat packet) l) :
    Frame data { data with localPlayer := l } ∧
      GameData.hasTitleConditions { data with localPlayer := l } =
        data.hasTitleConditions := by
  have hremember : LocalPlayerData.rememberChat data.localPlayer packet =
      { data.localPlayer with
        chatPropertiesBySender :=
          (data.localPlayer.rememberChat packet).chatPropertiesBySender } := by
    rw [LocalPlayerData.rememberChat]
    split
    · rfl
    · rfl
  rw [LocalPlayerData.SameButParties, hremember] at h
  rw [h]
  exact ⟨⟨rfl, rfl, rfl⟩, rfl⟩

theorem onPacketReceived_silent {packet : ServerPacket}
    (hchat : forall p, packet ≠ .TS_SC_CHAT p) :
    data.onPacketReceived m playerName packet =
      (data.onSilentPacket m packet >>= fun data' => pure (data', [])) := by
  cases packet with
  | TS_SC_CHAT p => exact absurd rfl (hchat p)
  | _ => rfl

theorem yields_onPacketReceived (packet : ServerPacket) :
    Yields (fun handled : GameData × List CharString =>
      Effect data packet handled.1)
      (data.onPacketReceived m playerName packet) := by
  by_cases hchat : exists p, packet = .TS_SC_CHAT p
  · rcases hchat with ⟨p, rfl⟩
    refine yields_bind fun handled hok => yields_pure ?_
    exact Effect.quiet rfl rfl rfl rfl rfl
      (frame_of_sameButParties
        (LocalPlayerData.yields_onChat p handled hok)).left
  · rw [onPacketReceived_silent fun p heq => hchat ⟨p, heq⟩]
    refine yields_bind fun data' hok => yields_pure ?_
    exact yields_onSilentPacket (fun p heq => hchat ⟨p, heq⟩) data' hok

end GameData

end Mirror
end Rzu
