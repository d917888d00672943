import Rzu.Mirror.AbsentData
import Rzu.Mirror.ClientUpdate

/-!
# Keys and contents

Creatures and items are kept under their handles.  A handler that creates an
entry where there was none does not set the handle in it.
-/

namespace Rzu
namespace Mirror

open Library
open Packet

/-- A session, and the creatures that the client has been told about. -/
structure Audience where
  session : GameSession
  told : List Handle

namespace Audience

def create : Audience where
  session := GameSession.create
  told := []

/-- A packet that is handled tells of a creature that comes or goes. -/
def tell (a : Audience) (packet : ServerPacket) : List Handle :=
  match packet.entering? with
  | some h =>
      if h = a.session.gameData.getLocalPlayerServerHandle then a.told
      else a.told.insert h
  | none =>
      match packet.leaving? with
      | some h => a.told.erase h
      | none => a.told

/-- What the client has been told about after an event. -/
def toldAfter (a : Audience) : SessionEvent -> List Handle
  | .packet _ packet =>
      if a.session.connectedInGame then a.tell packet else a.told
  | .disconnectDesc => []
  | .gameDisconnected => []
  | .updateAllPositions _ => a.told
  | .setProperty _ => a.told

def Step (playerName : CharString) (a : Audience) (e : SessionEvent)
    (a' : Audience) : Prop :=
  GameSession.Step playerName a.session e a'.session ∧
    a'.told = a.toldAfter e

theorem step_deterministic (playerName : CharString) :
    Deterministic (Step playerName) := by
  intro a e a' a'' h h'
  have hsession := GameSession.step_deterministic playerName _ _ _ _
    h.left h'.left
  have htold : a'.told = a''.told := h.right.trans h'.right.symm
  cases a'
  cases a''
  cases hsession
  cases htold
  rfl

/--
Entries are kept under the handle that they say, and taking the player away
tells that exactly the creatures have left that the client was told about.
-/
structure KeysAgree (a : Audience) : Prop where
  creatures : UnorderedMap.Every (fun h creature => creature.handle = h)
    a.session.gameData.creaturesData
  items : UnorderedMap.Every (fun h item => item.integer "handle" = h)
    a.session.gameData.localPlayer.itemsByHandle
  leaving : a.session.gameData.leftHandles.Perm a.told

/-- A packet that puts an entry under a handle that it does not set. -/
def MakesEntry (data : GameData) (packet : ServerPacket) : Prop :=
  (exists h, packet.creature? = some h ∧
    h ≠ data.getLocalPlayerServerHandle ∧ h ∉ data.creaturesData) ∨
  (exists h, packet.counted? = some h ∧
    h ≠ 0 ∧ h ∉ data.localPlayer.itemsByHandle) ∨
  exists h, packet.loggedIn? = some h ∧ h ∈ data.creaturesData

/-- An event with such a packet, in game. -/
def Mismatches (a : Audience) (e : SessionEvent) : Prop :=
  exists m packet, e = .packet m packet ∧
    a.session.connectedInGame = true ∧
    MakesEntry a.session.gameData packet

/-- What goes well keeps more: the player is none of the creatures. -/
structure Kept (a : Audience) : Prop where
  creatures : UnorderedMap.Every (fun h creature => creature.handle = h)
    a.session.gameData.creaturesData
  items : UnorderedMap.Every (fun h item => item.integer "handle" = h)
    a.session.gameData.localPlayer.itemsByHandle
  told : forall h, h ∈ a.told ↔ h ∈ a.session.gameData.creaturesData
  nodup : a.told.Nodup
  player : forall h, a.session.gameData.loginHandle = some h ->
    h ∉ a.session.gameData.creaturesData
  connected : a.session.connectedInGame =
    a.session.gameData.loginHandle.isSome
  offline : a.session.connectedInGame = false -> a.told = []

theorem kept_create : Kept create where
  creatures := UnorderedMap.every_empty
  items := UnorderedMap.every_empty
  told h := by
    constructor
    · intro hmem
      cases hmem
    · intro hmem
      exact absurd hmem (AList.notMem_empty h)
  nodup := List.nodup_nil
  player h hlogin := by cases hlogin
  connected := rfl
  offline _ := rfl

section Kept

variable {a a' : Audience} {data data' : GameData} {handle : Handle}

theorem mem_leftHandles (hlogin : data.loginHandle = some handle)
    (hcreatures : UnorderedMap.Every (fun h creature => creature.handle = h)
      data.creaturesData) (h : Handle) :
    h ∈ data.leftHandles ↔ h ≠ handle ∧ h ∈ data.creaturesData := by
  rw [UnorderedMap.every_iff_entries] at hcreatures
  rw [data.leftHandles_of_login hlogin, List.mem_map]
  constructor
  · intro hmem
    rcases hmem with ⟨e, he, heq⟩
    rcases List.mem_filter.mp he with ⟨hentry, hne⟩
    have hkey : e.1 = h := (hcreatures e hentry).symm.trans heq
    rw [← hkey]
    refine ⟨of_decide_eq_true hne, ?_⟩
    exact AList.mem_keys.mpr (List.mem_keys_of_mem hentry)
  · intro hmem
    rcases UnorderedMap.mem_iff_lookup.mp hmem.right with ⟨c, hlookup⟩
    have hentry := AList.mem_lookup_iff.mp hlookup
    refine ⟨⟨h, c⟩, List.mem_filter.mpr ⟨hentry, ?_⟩, ?_⟩
    · exact decide_eq_true hmem.left
    · exact hcreatures _ hentry

theorem nodup_leftHandles
    (hcreatures : UnorderedMap.Every (fun h creature => creature.handle = h)
      data.creaturesData) : data.leftHandles.Nodup := by
  cases hlogin : data.loginHandle with
  | none =>
      rw [data.leftHandles_of_none hlogin]
      exact List.nodup_nil
  | some handle =>
      rw [UnorderedMap.every_iff_entries] at hcreatures
      rw [data.leftHandles_of_login hlogin]
      have hkeys : (data.creaturesData.entries.filter fun e =>
          decide (e.1 ≠ handle)).map (fun e => e.2.handle) =
          (data.creaturesData.entries.filter fun e =>
            decide (e.1 ≠ handle)).map Sigma.fst :=
        List.map_congr_left fun e he =>
          hcreatures e (List.mem_filter.mp he).left
      rw [hkeys]
      exact List.Nodup.sublist (List.filter_sublist.map _)
        data.creaturesData.keys_nodup

theorem Kept.keysAgree (h : Kept a) : KeysAgree a where
  creatures := h.creatures
  items := h.items
  leaving := by
    refine (List.perm_ext_iff_of_nodup (nodup_leftHandles h.creatures)
      h.nodup).mpr fun handle => ?_
    rw [h.told]
    cases hlogin : a.session.gameData.loginHandle with
    | none =>
        have hoffline : a.session.connectedInGame = false := by
          rw [h.connected, hlogin]
          rfl
        rw [GameData.leftHandles_of_none _ hlogin, ← h.told,
          h.offline hoffline]
    | some player =>
        rw [mem_leftHandles hlogin h.creatures]
        constructor
        · intro hboth
          exact hboth.right
        · intro hmem
          refine ⟨?_, hmem⟩
          intro heq
          exact h.player player hlogin (heq ▸ hmem)

/-!
## Steps that keep it
-/

theorem Kept.exists_player (h : Kept a)
    (hconnected : a.session.connectedInGame = true) :
    exists player, a.session.gameData.loginHandle = some player ∧
      a.session.gameData.getLocalPlayerServerHandle = player := by
  rw [h.connected] at hconnected
  rcases Option.isSome_iff_exists.mp hconnected with ⟨player, hlogin⟩
  refine ⟨player, hlogin, ?_⟩
  rw [GameData.getLocalPlayerServerHandle_eq, hlogin]
  rfl

def inGame (data : GameData) (told : List Handle) : Audience where
  session := { connectedInGame := true, gameData := data }
  told := told

theorem Kept.frame (h : Kept a)
    (hconnected : a.session.connectedInGame = true)
    (hframe : GameData.Frame a.session.gameData data') :
    Kept (inGame data' a.told) where
  creatures := by
    rw [inGame, hframe.creatures]
    exact h.creatures
  items := by
    rw [inGame, hframe.items]
    exact h.items
  told handle := by
    rw [inGame, hframe.creatures]
    exact h.told handle
  nodup := h.nodup
  player handle hlogin := by
    rw [inGame, hframe.login] at hlogin
    rw [inGame, hframe.creatures]
    exact h.player handle hlogin
  connected := by
    rw [inGame, hframe.login, ← h.connected, hconnected]
  offline hoffline := by cases hoffline

theorem Kept.insert (h : Kept a)
    (hconnected : a.session.connectedInGame = true) {handle : Handle}
    {creature : CreatureData}
    (hother : handle ≠ a.session.gameData.getLocalPlayerServerHandle)
    (hhandle : creature.handle = handle) {told : List Handle}
    (htold : forall h', h' ∈ told ↔ h' = handle ∨ h' ∈ a.told)
    (hnodup : told.Nodup) :
    Kept (inGame
      { a.session.gameData with
        creaturesData :=
          a.session.gameData.creaturesData.insert handle creature } told) where
  creatures := h.creatures.insert hhandle
  items := h.items
  told h' := by
    rw [inGame, htold, h.told]
    exact (AList.mem_insert _).symm
  nodup := hnodup
  player h' hlogin := by
    intro hmem
    rcases (AList.mem_insert _).mp hmem with heq | hold
    · rcases h.exists_player hconnected with ⟨player, hplayer, hlocal⟩
      have hsame : some h' = some player := hlogin.symm.trans hplayer
      cases hsame
      exact hother (heq.symm.trans hlocal.symm)
    · exact h.player h' hlogin hold
  connected := hconnected.symm.trans h.connected
  offline hoffline := by cases hoffline

theorem Kept.erase (h : Kept a)
    (hconnected : a.session.connectedInGame = true) (handle : Handle) :
    Kept (inGame
      { a.session.gameData with
        creaturesData := a.session.gameData.creaturesData.erase handle }
      (a.told.erase handle)) where
  creatures := h.creatures.erase handle
  items := h.items
  told h' := by
    rw [inGame, h.nodup.mem_erase_iff, h.told]
    exact AList.mem_erase.symm
  nodup := h.nodup.erase handle
  player h' hlogin hmem := h.player h' hlogin (AList.mem_erase.mp hmem).right
  connected := hconnected.symm.trans h.connected
  offline hoffline := by cases hoffline

theorem Kept.items_only (h : Kept a)
    (hconnected : a.session.connectedInGame = true)
    {items : UnorderedMap Handle Record}
    (hitems : UnorderedMap.Every
      (fun h item => item.integer "handle" = h) items) :
    Kept (inGame
      (a.session.gameData.updateLocalPlayer fun l =>
        { l with itemsByHandle := items }) a.told) where
  creatures := h.creatures
  items := hitems
  told := h.told
  nodup := h.nodup
  player := h.player
  connected := hconnected.symm.trans h.connected
  offline hoffline := by cases hoffline

theorem Kept.login (h : Kept a) {packet : Record}
    (hother : packet.integer "handle" ∉ a.session.gameData.creaturesData) :
    Kept (inGame (a.session.gameData.onLoginResult packet) a.told) where
  creatures := h.creatures
  items := h.items
  told := h.told
  nodup := h.nodup
  player h' hlogin := by
    have heq : some (packet.integer "handle") = some h' := hlogin
    cases heq
    exact hother
  connected := rfl
  offline hoffline := by cases hoffline

theorem every_insertItems {items : List Record}
    {byHandle : UnorderedMap Handle Record}
    (h : UnorderedMap.Every (fun h item => item.integer "handle" = h)
      byHandle) :
    UnorderedMap.Every (fun h item => item.integer "handle" = h)
      (GameData.insertItems items byHandle) := by
  induction items generalizing byHandle with
  | nil => exact h
  | cons item items ih => exact ih (h.insert rfl)

theorem updateCreature_other {h : Handle}
    {change : CreatureData -> CreatureData}
    (hother : h ≠ data.getLocalPlayerServerHandle) :
    data.updateCreature h change =
      { data with
        creaturesData :=
          data.creaturesData.insert h
            (change ((data.creaturesData.lookup h).getD
              CreatureData.create)) } :=
  if_neg hother

theorem tell_of_creature {packet : ServerPacket} {h : Handle}
    (hcreature : packet.creature? = some h) : a.tell packet = a.told := by
  cases packet with
  | TS_SC_ENTER p => cases hcreature
  | TS_SC_LEAVE p => cases hcreature
  | _ => rfl

theorem Kept.effect (h : Kept a) {packet : ServerPacket}
    (hconnected : a.session.connectedInGame = true)
    (heffect : GameData.Effect a.session.gameData packet data')
    (hgood : ¬MakesEntry a.session.gameData packet) :
    Kept (inGame data' (a.tell packet)) := by
  cases heffect with
  | quiet hcreature hcounted hloggedIn hentering hleaving hframe =>
      rw [tell, hentering, hleaving]
      exact h.frame hconnected hframe
  | player hcreature hframe =>
      rw [tell_of_creature hcreature]
      exact h.frame hconnected hframe
  | creature hcreature hother hchange =>
      rename_i handle change
      rw [tell_of_creature hcreature]
      have hmem : handle ∈ a.session.gameData.creaturesData := by
        by_contra hunknown
        exact hgood (Or.inl ⟨handle, hcreature, hother, hunknown⟩)
      rcases UnorderedMap.mem_iff_lookup.mp hmem with ⟨creature, hlookup⟩
      rw [updateCreature_other hother, hlookup]
      refine h.insert hconnected hother ?_ ?_ h.nodup
      · exact (hchange creature).trans (h.creatures handle creature hlookup)
      · intro h'
        refine (or_iff_right_of_imp fun heq => ?_).symm
        rw [heq, h.told]
        exact hmem
  | enter p =>
      change Kept (inGame _ (if _ then _ else _))
      rw [GameData.onEnter]
      split
      · exact h.frame hconnected ⟨rfl, rfl, rfl⟩
      · rename_i hother
        refine h.insert hconnected hother rfl ?_ h.nodup.insert
        intro h'
        exact List.mem_insert_iff
  | leave p => exact h.erase hconnected (p.integer "handle")
  | login p =>
      refine h.login fun hmem => ?_
      exact hgood (Or.inr (Or.inr ⟨_, rfl, hmem⟩))
  | inventory p => exact h.items_only hconnected (every_insertItems h.items)
  | count p =>
      refine h.items_only hconnected ?_
      split
      · rename_i hcount
        refine h.items.insert ?_
        change (((a.session.gameData.localPlayer.itemsByHandle.lookup
          (p.integer "item_handle")).getD Record.zero).integer "handle") = _
        cases hlookup : a.session.gameData.localPlayer.itemsByHandle.lookup
            (p.integer "item_handle") with
        | none =>
            by_contra hne
            refine hgood (Or.inr (Or.inl
              ⟨p.integer "item_handle", if_pos hcount, ?_, ?_⟩))
            · exact fun hzero => hne hzero.symm
            · exact AList.lookup_eq_none.mp hlookup
        | some item => exact h.items _ item hlookup
      · exact h.items.erase _
  | destroy p => exact h.items_only hconnected (h.items.erase _)

/-!
## Steps that break it
-/

theorem exists_of_counted {packet : ServerPacket} {h : Handle}
    (hcounted : packet.counted? = some h) :
    exists p, packet = .TS_SC_UPDATE_ITEM_COUNT p ∧
      p.integer "count" ≠ 0 ∧ p.integer "item_handle" = h := by
  cases packet with
  | TS_SC_UPDATE_ITEM_COUNT p =>
      rw [ServerPacket.counted?] at hcounted
      split at hcounted
      · rename_i hcount
        cases hcounted
        exact ⟨p, rfl, hcount, rfl⟩
      · cases hcounted
  | _ => cases hcounted

theorem exists_of_loggedIn {packet : ServerPacket} {h : Handle}
    (hloggedIn : packet.loggedIn? = some h) :
    exists p, packet = .TS_SC_LOGIN_RESULT p ∧ p.integer "handle" = h := by
  cases packet with
  | TS_SC_LOGIN_RESULT p =>
      cases hloggedIn
      exact ⟨p, rfl, rfl⟩
  | _ => cases hloggedIn

theorem Kept.creates (h : Kept a)
    (hconnected : a.session.connectedInGame = true) {handle : Handle}
    {change : CreatureData -> CreatureData}
    (hother : handle ≠ a.session.gameData.getLocalPlayerServerHandle)
    (hunknown : handle ∉ a.session.gameData.creaturesData) :
    ¬KeysAgree
      (inGame (a.session.gameData.updateCreature handle change) a.told) := by
  intro hagree
  rcases h.exists_player hconnected with ⟨player, hlogin, hlocal⟩
  have hlogin' : (a.session.gameData.updateCreature handle
      change).loginHandle = some player :=
    GameData.loginHandle_updateCreature.trans hlogin
  have hmem : handle ∈
      (a.session.gameData.updateCreature handle change).creaturesData := by
    rw [updateCreature_other hother]
    exact (AList.mem_insert _).mpr (Or.inl rfl)
  have hleft := (mem_leftHandles hlogin' hagree.creatures handle).mpr
    ⟨fun heq => hother (heq.trans hlocal.symm), hmem⟩
  exact hunknown ((h.told handle).mp (hagree.leaving.mem_iff.mp hleft))

theorem Kept.mismatch (h : Kept a) {packet : ServerPacket}
    (hconnected : a.session.connectedInGame = true)
    (heffect : GameData.Effect a.session.gameData packet data')
    (hbad : MakesEntry a.session.gameData packet) :
    ¬KeysAgree (inGame data' (a.tell packet)) := by
  rcases hbad with ⟨handle, hpacket, hother, hunknown⟩ |
    ⟨handle, hpacket, hnonzero, hunknown⟩ | ⟨handle, hpacket, hknown⟩
  · rw [tell_of_creature hpacket]
    cases heffect with
    | quiet hcreature hcounted hloggedIn hentering hleaving hframe =>
        rw [hpacket] at hcreature
        cases hcreature
    | player hcreature hframe =>
        rw [hpacket] at hcreature
        cases hcreature
        exact absurd rfl hother
    | creature hcreature hother' hchange =>
        rw [hpacket] at hcreature
        cases hcreature
        exact h.creates hconnected hother hunknown
    | enter p => cases hpacket
    | leave p => cases hpacket
    | login p => cases hpacket
    | inventory p => cases hpacket
    | count p => cases hpacket
    | destroy p => cases hpacket
  · rcases exists_of_counted hpacket with ⟨p, rfl, hcount, rfl⟩
    cases heffect with
    | quiet hcreature hcounted hloggedIn hentering hleaving hframe =>
        rw [hpacket] at hcounted
        cases hcounted
    | player hcreature hframe => cases hcreature
    | creature hcreature hother hchange => cases hcreature
    | count p =>
        intro hagree
        have hitems := hagree.items
        change UnorderedMap.Every _ (if _ then _ else _) at hitems
        rw [if_pos hcount, AList.lookup_eq_none.mpr hunknown] at hitems
        have hzero := hitems _ _ (AList.lookup_insert _)
        exact hnonzero hzero.symm
  · rcases exists_of_loggedIn hpacket with ⟨p, rfl, rfl⟩
    cases heffect with
    | quiet hcreature hcounted hloggedIn hentering hleaving hframe =>
        cases hloggedIn
    | player hcreature hframe => cases hcreature
    | creature hcreature hother hchange => cases hcreature
    | login p =>
        intro hagree
        have htold := (h.told _).mpr hknown
        have hleft := hagree.leaving.mem_iff.mpr htold
        exact ((mem_leftHandles rfl hagree.creatures _).mp hleft).left rfl

end Kept

section Run

variable {playerName : CharString} {a a' : Audience} {e : SessionEvent}

theorem Kept.disconnect (h : Kept a) :
    Kept { session := a.session.setConnected false, told := [] } := by
  cases hconnected : a.session.connectedInGame with
  | true =>
      have hclear : a.session.setConnected false = GameSession.create := by
        rw [GameSession.setConnected, hconnected]
        rfl
      rw [hclear]
      exact kept_create
  | false =>
      have hkeep : a.session.setConnected false = a.session := by
        rw [GameSession.setConnected, if_neg (by simp [hconnected]),
          ← hconnected]
      have hsame : { session := a.session.setConnected false, told := [] } =
          a := by
        rw [hkeep, ← h.offline hconnected]
      rw [hsame]
      exact h

theorem every_updateAllPositions {m : Moment} {data : GameData}
    (h : UnorderedMap.Every (fun h creature => creature.handle = h)
      data.creaturesData) :
    UnorderedMap.Every (fun h creature => creature.handle = h)
      (data.updateAllPositions m).creaturesData := by
  rw [GameData.updateAllPositions]
  split
  · exact h
  · refine UnorderedMap.every_iff_entries.mpr fun e he => ?_
    rcases List.mem_map.mp he with ⟨e', hentry, heq⟩
    cases heq
    change (GameData.updateOwnPosition m e'.2).handle = e'.1
    rw [GameData.handle_updateOwnPosition]
    exact UnorderedMap.every_iff_entries.mp h e' hentry

theorem mem_updateAllPositions {m : Moment} {data : GameData} (h : Handle) :
    h ∈ (data.updateAllPositions m).creaturesData ↔
      h ∈ data.creaturesData := by
  rw [GameData.updateAllPositions]
  split
  · exact Iff.rfl
  · rw [AList.mem_keys, AList.mem_keys, AList.keys_mk, List.keys,
      List.map_map]
    exact Iff.rfl

theorem login_updateAllPositions {m : Moment} {data : GameData} :
    (data.updateAllPositions m).loginHandle = data.loginHandle := by
  rw [GameData.updateAllPositions]
  split
  · rfl
  · rename_i loginResult heq
    rw [GameData.loginHandle, GameData.loginHandle, heq]
    rfl

theorem items_updateAllPositions {m : Moment} {data : GameData} :
    (data.updateAllPositions m).localPlayer.itemsByHandle =
      data.localPlayer.itemsByHandle := by
  rw [GameData.updateAllPositions]
  split
  · rfl
  · rfl

theorem Kept.positions (h : Kept a) (m : Moment) :
    Kept
      { a with
        session :=
          { a.session with
            gameData := a.session.gameData.updateAllPositions m } } where
  creatures := every_updateAllPositions h.creatures
  items := by
    rw [items_updateAllPositions]
    exact h.items
  told handle := (h.told handle).trans (mem_updateAllPositions handle).symm
  nodup := h.nodup
  player handle hlogin := by
    rw [login_updateAllPositions] at hlogin
    rw [mem_updateAllPositions]
    exact h.player handle hlogin
  connected := by
    rw [login_updateAllPositions]
    exact h.connected
  offline := h.offline

theorem step_packet {m : Moment} {packet : ServerPacket}
    (hstep : Step playerName a (.packet m packet) a') :
    (a.session.connectedInGame = false ∧ a' = a) ∨
    (a.session.connectedInGame = true ∧
      exists data', a' = inGame data' (a.tell packet) ∧
        GameData.Effect a.session.gameData packet data') ∨
    (a.session.connectedInGame = false ∧
      exists p, a' = inGame (a.session.gameData.onLoginResult p) a.told) := by
  rcases a' with ⟨session', told'⟩
  rcases hstep with ⟨⟨answers, hok⟩, htold⟩
  change a.session.onGamePacketReceived playerName m packet = _ at hok
  rw [GameSession.onGamePacketReceived_eq] at hok
  change told' = if a.session.connectedInGame then _ else _ at htold
  cases hconnected : a.session.connectedInGame with
  | true =>
      rw [if_pos (Or.inr hconnected)] at hok
      rw [hconnected, if_pos rfl] at htold
      right
      left
      refine ⟨rfl, ?_⟩
      cases hpacket : a.session.gameData.onPacketReceived m playerName
          packet with
      | error fault =>
          rw [hpacket] at hok
          cases hok
      | ok handled =>
          rw [hpacket] at hok
          cases hok
          rw [htold]
          exact ⟨handled.1, rfl,
            GameData.yields_onPacketReceived packet handled hpacket⟩
  | false =>
      rw [hconnected] at htold hok
      rw [if_neg Bool.false_ne_true] at htold
      by_cases hlogin : packet.loggedIn?.isSome = true
      · rw [if_pos (Or.inl hlogin)] at hok
        right
        right
        refine ⟨rfl, ?_⟩
        rcases Option.isSome_iff_exists.mp hlogin with ⟨handle, hsome⟩
        rcases exists_of_loggedIn hsome with ⟨p, rfl, -⟩
        cases hok
        exact ⟨p, by rw [htold]; rfl⟩
      · rw [if_neg (not_or.mpr ⟨hlogin, Bool.false_ne_true⟩)] at hok
        cases hok
        exact Or.inl ⟨rfl, by rw [htold]⟩

theorem Kept.step (h : Kept a) (hstep : Step playerName a e a')
    (hgood : ¬Mismatches a e) : Kept a' := by
  cases e with
  | packet m packet =>
      rcases step_packet hstep with ⟨-, rfl⟩ |
        ⟨hconnected, data', rfl, heffect⟩ | ⟨hoffline, p, rfl⟩
      · exact h
      · refine h.effect hconnected heffect fun hmakes => ?_
        exact hgood ⟨m, packet, rfl, hconnected, hmakes⟩
      · refine h.login fun hmem => ?_
        have htold := (h.told _).mpr hmem
        rw [h.offline hoffline] at htold
        cases htold
  | disconnectDesc =>
      rcases a' with ⟨session', told'⟩
      rcases hstep with ⟨⟨answers, hok⟩, htold⟩
      cases hok
      cases htold
      exact h.disconnect
  | gameDisconnected =>
      rcases a' with ⟨session', told'⟩
      rcases hstep with ⟨⟨answers, hok⟩, htold⟩
      cases hok
      cases htold
      exact h.disconnect
  | updateAllPositions m =>
      rcases a' with ⟨session', told'⟩
      rcases hstep with ⟨⟨answers, hok⟩, htold⟩
      cases hok
      cases htold
      exact h.positions m
  | setProperty packet =>
      rcases a' with ⟨session', told'⟩
      rcases hstep with ⟨⟨answers, hok⟩, htold⟩
      cases hok
      cases htold
      exact ⟨h.creatures, h.items, h.told, h.nodup, h.player, h.connected,
        h.offline⟩

theorem Kept.breaks (h : Kept a) (hstep : Step playerName a e a')
    (hbad : Mismatches a e) : ¬KeysAgree a' := by
  rcases hbad with ⟨m, packet, rfl, hconnected, hmakes⟩
  rcases step_packet hstep with ⟨hoffline, -⟩ | ⟨-, data', rfl, heffect⟩ |
    ⟨hoffline, -⟩
  · rw [hconnected] at hoffline
    cases hoffline
  · exact h.mismatch hconnected heffect hmakes
  · rw [hconnected] at hoffline
    cases hoffline

end Run

/--
In a run, keys agree with contents in every state exactly if no packet makes
an entry for a creature, an item or a player that it does not set.
-/
theorem keysAgree_throughout_iff {playerName : CharString}
    {history : List SessionEvent} {a : Audience}
    (hrun : Run (Step playerName) create history a) :
    Throughout (Step playerName) create KeysAgree history ↔
      Avoids (Step playerName) create Mismatches history :=
  throughout_iff_avoids_of_kept (step_deterministic playerName) kept_create
    (fun h => h.keysAgree) (fun h hstep hgood => h.step hstep hgood)
    (fun h hstep hbad => h.breaks hstep hbad) hrun

/-- The player has the handle 1; a property is of a creature 7. -/
def strayProperty : List SessionEvent :=
  [.packet Moment.still
      (.TS_SC_LOGIN_RESULT (Record.zero.setInteger "handle" 1)),
    .packet Moment.still
      (.TS_SC_PROPERTY (Record.zero.setInteger "handle" 7))]

def afterStrayProperty : Audience :=
  inGame
    ((GameData.create.onLoginResult
      (Record.zero.setInteger "handle" 1)).onProperty
      (Record.zero.setInteger "handle" 7)) []

theorem run_strayProperty :
    Run (Step []) create strayProperty afterStrayProperty := by
  have hlogin : Step [] create
      (.packet Moment.still
        (.TS_SC_LOGIN_RESULT (Record.zero.setInteger "handle" 1)))
      (inGame (GameData.create.onLoginResult
        (Record.zero.setInteger "handle" 1)) []) := ⟨⟨[], rfl⟩, rfl⟩
  exact Run.snoc (Run.snoc Run.nil hlogin) ⟨⟨[], rfl⟩, rfl⟩

theorem keysAgree_strayProperty :
    Throughout (Step []) create KeysAgree strayProperty ↔
      Avoids (Step []) create Mismatches strayProperty :=
  keysAgree_throughout_iff run_strayProperty

/-- The creature 7 is created, and says that its handle is zero. -/
theorem not_keysAgree_throughout :
    ¬Throughout (Step []) create KeysAgree strayProperty := by
  intro h
  have hagree := h strayProperty [] _ rfl run_strayProperty
  have hhandle := hagree.creatures 7 _ rfl
  exact absurd hhandle (by decide)

end Audience

end Mirror
end Rzu
