import Rzu.Auth.Ownership
import Rzu.Auth.SessionPairs

/-!
# Live objects

A handler of the auth server that reads an object which is gone has no result.
Here is when that never happens to an event of a session that is there.
-/

namespace Rzu
namespace Auth

open Library

namespace AuthState

/-- The session of an event is there, and new objects are nowhere else. -/
def Admits (s : AuthState) : Event -> Prop
  | Event.clientConnected c => s.clientSessions c = none
  | Event.gameConnected x => s.gameSessions x = none
  | Event.accountAuthResult c _ newClient =>
      (s.clientSessions c).isSome ∧ s.clientDatas newClient = none
  | Event.selectServer c _ _ | Event.clientDisconnected c
  | Event.clientDestroyed c => (s.clientSessions c).isSome
  | Event.serverLogin x _ _ newGameData =>
      (s.gameSessions x).isSome ∧ s.gameDatas newGameData = none
  | Event.accountList x packet newClients =>
      exists session, s.gameSessions x = some session ∧
        Allocates s newClients (collectedAccounts session packet).length
  | Event.serverLogout x | Event.clientLogin x _ _ | Event.clientLogout x _
  | Event.clientKickFailed x _ | Event.gameDisconnected x =>
      (s.gameSessions x).isSome

def HandlesAll (strictKick : Bool) (s : AuthState) : Prop :=
  forall event, s.Admits event -> (s.handle strictKick event).isSome

/-! ## Handlers -/

section Handlers

variable {s : AuthState}

theorem evict_isSome (h : Consistent s) (strictKick : Bool) {p : Addr}
    {old : ClientData} (hp : s.clientDatas p = some old) :
    (s.evict strictKick p).isSome := by
  rw [evict, hp, Option.bind_eq_bind, Option.bind_some]
  cases hserver : old.server with
  | none =>
      cases hclient : old.client with
      | none =>
          have hbound := h.lobby.server_of_none hp hclient
          rw [hserver] at hbound
          cases hbound
      | some c =>
          rcases h.lobby.owner hp hclient with ⟨session, hc, -⟩
          simp [abortOwner, hclient, hc]
  | some g =>
      rcases h.bound.server hp hserver with ⟨gameData, hg⟩
      have hremove := removeClient_eq h.indexed hp
      cases hgame : old.inGame with
      | false => simp [hremove]
      | true =>
          cases hback : gameData.gameServerSession with
          | none => simp [kickClientOf, hg, hback]
          | some x =>
              rcases h.paired.session hg hback with ⟨session, hx, -⟩
              cases strictKick with
              | true =>
                  simp [kickClientOf, hg, hback, kickClient, hx, hp,
                    forgetKicked]
              | false =>
                  simp [kickClientOf, hg, hback, kickClient, hx, hp,
                    forgetKicked, hremove]

theorem clientAuthResult_isSome (h : Consistent s) (strictKick : Bool)
    {c p : Addr} (query : AccountQuery) (hc : (s.clientSessions c).isSome)
    (hfree : s.clientDatas p = none) :
    (s.clientAuthResult strictKick c query p).isSome := by
  rcases Option.isSome_iff_exists.mp hc with ⟨session, hsession⟩
  rw [clientAuthResult, hsession, Option.bind_eq_bind, Option.bind_some]
  split
  · rename_i row hresults
    rcases tryAddClient_total hfree (some c) (query.data row) with
      ⟨result, hadd⟩
    have hbind : (s.bindClient strictKick c query row p).isSome := by
      rw [bindClient, hadd]
      cases tryAddClient_cases h.indexed hadd with
      | added hvacant => rfl
      | conflict hold hsame =>
          rcases Option.isSome_iff_exists.mp (evict_isSome h strictKick hold)
            with ⟨evicted, hevict⟩
          simp [hevict]
    split
    · rfl
    · split
      · rfl
      · split
        · rfl
        · exact hbind
  · rfl

theorem onSelectServer_isSome (howned : Owned s) {c : Addr}
    (serverIdx : UInt16) (oneTimePassword : UInt64)
    (hc : (s.clientSessions c).isSome) :
    (s.onSelectServer c serverIdx oneTimePassword).isSome := by
  rcases Option.isSome_iff_exists.mp hc with ⟨session, hsession⟩
  rw [onSelectServer, hsession, Option.bind_eq_bind, Option.bind_some]
  split
  · rfl
  · rfl
  · rename_i p g hpointer hg
    rcases howned c session p hsession hpointer with ⟨clientData, hp, -⟩
    simp [switchClientToServer, hp]

theorem removeOwned_isSome (h : Consistent s) (howned : Owned s) {c : Addr}
    {session : ClientSession} (hc : s.clientSessions c = some session) :
    (s.removeOwned session).isSome := by
  unfold removeOwned
  split
  · rfl
  · rename_i p hpointer
    rcases howned c session p hc hpointer with ⟨clientData, hp, -⟩
    rw [removeClient_eq h.indexed hp]
    rfl

theorem loginServer_isSome (h : Consistent s) {x newGameData : Addr}
    {session : GameServerSession} (kind : LoginKind) (packet : ServerLogin)
    (hx : s.gameSessions x = some session) (hnone : session.gameData = none)
    (hfree : s.gameDatas newGameData = none) :
    (s.loginServer x kind packet newGameData).isSome := by
  rw [loginServer, tryAddServer]
  cases hindex : s.servers.lookup packet.info.serverIdx with
  | some oldGameData =>
      rcases h.servers.ofIdx hindex with ⟨old, hold, -⟩
      simp only [Option.bind_eq_bind, Option.bind_some, hold]
      split
      · rw [loginOldServer_eq h hx hnone hold]
        rfl
      · rfl
  | none =>
      have hadded : (s.addServer newGameData
          (GameData.create x packet.info kind.guid)).gameDatas newGameData =
            some (GameData.create x packet.info kind.guid) :=
        Function.update_self _ _ _
      have hlogin := loginNewServer_eq kind (s := s.addServer newGameData
        (GameData.create x packet.info kind.guid)) hx hnone hadded rfl
      rw [if_pos hfree]
      exact Option.isSome_of_eq_some hlogin

theorem synchronize_isSome (h : Consistent s) {x g : Addr}
    {session : GameServerSession} {accounts : List AccountInfo}
    {newClients : List Addr} (hx : s.gameSessions x = some session)
    (hback : session.gameData = some g)
    (halloc : Allocates s newClients accounts.length) :
    (s.synchronize x g accounts newClients).isSome := by
  rcases removeServer_forgets h.indexed g with ⟨cleared, hclear, hforgets, -⟩
  rcases h.paired.gameData hx hback with ⟨old, hold, -⟩
  rcases hforgets.sameServers.exists_some hold with ⟨gameData, hg, -⟩
  have hfree : forall p, p ∈ newClients -> cleared.clientDatas p = none := by
    intro p hp
    cases hfound : cleared.clientDatas p with
    | none => rfl
    | some clientData =>
        have hthere := hforgets.clientDatas_eq_some hfound
        rw [halloc.free p hp] at hthere
        cases hthere
  rcases addAccounts_total (hforgets.consistent h) (x := x) hg
      ⟨halloc.enough, halloc.distinct, hfree⟩ with ⟨⟨added, outputs⟩, hadd⟩
  have hadds := addAccounts_cases (hforgets.consistent h) hg hadd
  rcases hadds.sameServers.exists_some hg with ⟨gameData', hg', -⟩
  have hsession : added.gameSessions x = some session := by
    rw [hadds.gameSessions, hforgets.gameSessions]
    exact hx
  simp [synchronize, hclear, hadd, setReady, hg', setGameData, hsession]

theorem onAccountList_isSome (h : Consistent s) {x : Addr}
    {session : GameServerSession} (packet : AccountList)
    {newClients : List Addr} (hx : s.gameSessions x = some session)
    (halloc : Allocates s newClients
      (collectedAccounts session packet).length) :
    (s.onAccountList x packet newClients).isSome := by
  rw [onAccountList, hx, Option.bind_eq_bind, Option.bind_some]
  split
  · rfl
  · rename_i g hback
    have hall := synchronize_isSome (consistent_collect h packet hx)
      (Function.update_self _ _ _) hback
      ⟨halloc.enough, halloc.distinct, halloc.free⟩
    split
    · rfl
    · split
      · exact hall
      · rfl

theorem onClientLogin_isSome (h : Consistent s) {x : Addr}
    (packet : ClientLogin) (now : Int64) (hx : (s.gameSessions x).isSome) :
    (s.onClientLogin x packet now).isSome := by
  rcases Option.isSome_iff_exists.mp hx with ⟨session, hsession⟩
  rw [onClientLogin, hsession, Option.bind_eq_bind, Option.bind_some]
  split
  · rename_i g p hback hname
    rcases h.paired.gameData hsession hback with ⟨gameData, hg, -⟩
    rcases h.clients.ofName hname with ⟨clientData, hp, -⟩
    have hchecked : (s.clientLoginCheck g p packet).isSome := by
      simp only [clientLoginCheck, hp, hg, Option.bind_eq_bind,
        Option.bind_some]
      repeat' split
      all_goals rfl
    rcases Option.isSome_iff_exists.mp hchecked with ⟨result, hcheck⟩
    rw [loginClient, hcheck, Option.bind_eq_bind, Option.bind_some]
    cases result with
    | success =>
        have hserver := (clientLoginCheck_success hp hg hcheck).server
        simp [enterIfSuccess, connectedToGame, hp, hserver, countPlayer, hg,
          setClientData]
    | _ => simp [enterIfSuccess, hp]
  · rfl

theorem removeNamedClient_isSome (h : Consistent s) {x : Addr}
    (account : Vector UInt8 61) (hx : (s.gameSessions x).isSome) :
    (s.removeNamedClient x account).isSome := by
  rcases Option.isSome_iff_exists.mp hx with ⟨session, hsession⟩
  rw [removeNamedClient, hsession, Option.bind_eq_bind, Option.bind_some]
  split
  · rename_i g p hback hname
    rcases h.clients.ofName hname with ⟨clientData, hp, -⟩
    rw [removeClient_eq h.indexed hp]
    rfl
  · rfl

/-- Whoever owns what it points at reads nothing that is gone. -/
theorem handlesAll_of_owned (h : Consistent s) (howned : Owned s)
    (strictKick : Bool) : s.HandlesAll strictKick := by
  have hmap : forall {found : Option AuthState}, found.isSome ->
      (found.map fun s' => (s', ([] : List Output))).isSome := by
    intro found hfound
    rw [Option.isSome_map]
    exact hfound
  intro event hadmits
  cases event with
  | clientConnected c =>
      have hnew : s.clientSessions c = none := hadmits
      exact hmap (by simp [clientConnected, hnew])
  | accountAuthResult c query newClient =>
      exact clientAuthResult_isSome h strictKick query hadmits.left
        hadmits.right
  | selectServer c serverIdx oneTimePassword =>
      exact onSelectServer_isSome howned serverIdx oneTimePassword hadmits
  | clientDisconnected c =>
      rcases Option.isSome_iff_exists.mp hadmits with ⟨session, hc⟩
      rcases Option.isSome_iff_exists.mp (removeOwned_isSome h howned hc) with
        ⟨removed, hremove⟩
      exact hmap (by simp [onDisconnected, hc, hremove])
  | clientDestroyed c =>
      rcases Option.isSome_iff_exists.mp hadmits with ⟨session, hc⟩
      rcases Option.isSome_iff_exists.mp (removeOwned_isSome h howned hc) with
        ⟨removed, hremove⟩
      exact hmap (by simp [deleteClientSession, hc, hremove])
  | gameConnected x =>
      have hnew : s.gameSessions x = none := hadmits
      exact hmap (by simp [gameConnected, hnew])
  | serverLogin x kind packet newGameData =>
      rcases hadmits with ⟨hsome, hfree⟩
      rcases Option.isSome_iff_exists.mp hsome with ⟨session, hx⟩
      change (s.onServerLogin x kind packet newGameData).isSome
      rw [onServerLogin, hx, Option.bind_eq_bind, Option.bind_some]
      split
      · rfl
      · rename_i hnone
        exact loginServer_isSome (consistent_noteKind h kind hx) kind packet
          (Function.update_self _ _ _) hnone hfree
  | accountList x packet newClients =>
      rcases hadmits with ⟨session, hx, halloc⟩
      exact onAccountList_isSome h packet hx halloc
  | serverLogout x =>
      rcases Option.isSome_iff_exists.mp hadmits with ⟨session, hx⟩
      change (s.onServerLogout x).isSome
      rw [onServerLogout, hx, Option.bind_eq_bind, Option.bind_some]
      split
      · rfl
      · rename_i g hback
        rcases h.paired.gameData hx hback with ⟨gameData, hg, -⟩
        rcases removeGameData_total h hg with ⟨removed, hremove⟩
        simp [hremove]
  | clientLogin x packet now => exact onClientLogin_isSome h packet now hadmits
  | clientLogout x account => exact removeNamedClient_isSome h account hadmits
  | clientKickFailed x account =>
      exact removeNamedClient_isSome h account hadmits
  | gameDisconnected x =>
      rcases Option.isSome_iff_exists.mp hadmits with ⟨session, hx⟩
      rcases deleteGameSession_total h hx with ⟨s', hdelete⟩
      exact hmap (Option.isSome_of_eq_some hdelete)

/-- The session that a client is taken from reads it when it goes away. -/
theorem not_handlesAll_of_disowned (h : Consistent s) {s' : AuthState}
    {strictKick : Bool} {event : Event} {outputs : List Output}
    (hnoisy : s.disownedBy event = true)
    (hstep : s.handle strictKick event = some (s', outputs)) :
    ¬s'.HandlesAll strictKick := by
  have hnotice : exists x account,
      s.removeNamedClient x account = some (s', outputs) ∧
        s.namesLobbyClient x account = true := by
    cases event with
    | clientLogout x account => exact ⟨x, account, hstep, hnoisy⟩
    | clientKickFailed x account => exact ⟨x, account, hstep, hnoisy⟩
    | _ => cases hnoisy
  rcases hnotice with ⟨x, account, hremove, hnames⟩
  rcases namesLobbyClient_eq_true hnames with
    ⟨session, g, p, clientData, c, hx, hback, hname, hp, hc⟩
  have heq : s.removeNamedClient x account =
      some (s.forget p clientData, []) := by
    simp only [removeNamedClient, hx, hback, hname, Option.bind_eq_bind,
      Option.bind_some, removeClient_eq h.indexed hp, Option.map_some]
  rw [heq] at hremove
  cases hremove
  rcases h.lobby.owner hp hc with ⟨owner, howner, hpointer⟩
  have hgone : (s.forget p clientData).clientDatas p = none :=
    Function.update_self _ _ _
  have howner' : (s.forget p clientData).clientSessions c = some owner :=
    howner
  intro hall
  have hhandled := hall (Event.clientDisconnected c)
    (Option.isSome_of_eq_some howner')
  change ((onDisconnected _ c).map _).isSome at hhandled
  simp [onDisconnected, howner', removeOwned, hpointer, removeClient, hgone]
    at hhandled

end Handlers
end AuthState

/--
No event of a session that is there ever reads an object that is gone, exactly
if no game server reports a client gone that is still in the lobby.
-/
theorem handlesAll_throughout_iff {strictKick : Bool}
    {history : List Occurrence} {s : AuthState}
    (hrun : AuthRun strictKick history s) :
    Throughout (Step strictKick) AuthState.initial
        (AuthState.HandlesAll strictKick) history ↔
      Avoids (Step strictKick) AuthState.initial Disowns history := by
  let kept (s : AuthState) : Prop := Consistent s ∧ Owned s
  have hstart : kept AuthState.initial := ⟨consistent_initial, owned_initial⟩
  refine throughout_iff_avoids_of_kept (step_deterministic strictKick) hstart
    ?_ ?_ ?_ hrun
  · intro s h
    exact AuthState.handlesAll_of_owned h.left h.right strictKick
  · intro s o s' h hstep hquiet
    exact ⟨AuthState.consistent_handle h.left hstep,
      AuthState.owned_handle h.left h.right (Bool.eq_false_iff.mpr hquiet)
        hstep⟩
  · intro s o s' h hstep hnoisy
    exact AuthState.not_handlesAll_of_disowned h.left hnoisy hstep

theorem handlesAll_throughout_iff_lobby :
    exists history s, AuthRun false history s ∧
      (s.clientDatas 4).isSome = true ∧
        (Throughout (Step false) AuthState.initial
            (AuthState.HandlesAll false) history ↔
          Avoids (Step false) AuthState.initial Disowns history) := by
  have hreplay : (replay (nextStep false) AuthState.initial lobbyEvents).map
      (fun result => (result.2.clientDatas 4).isSome) = some true := by
    decide +kernel
  rcases Option.map_eq_some_iff.mp hreplay with ⟨⟨history, s⟩, heq, hlive⟩
  have hrun := replay_run (nextStep_step false) Run.nil heq
  exact ⟨history, s, hrun, hlive, handlesAll_throughout_iff hrun⟩

/-!
## Where clients are
-/

/-- In the lobby with a session, or bound to a server that is registered. -/
def AuthState.Placed (s : AuthState) (p : Addr) : Prop :=
  exists clientData, s.clientDatas p = some clientData ∧
    ((exists c session, clientData.client = some c ∧
        clientData.server = none ∧ clientData.inGame = false ∧
          s.clientSessions c = some session ∧
            session.clientData = some p) ∨
      exists g gameData, clientData.client = none ∧
        clientData.server = some g ∧ s.gameDatas g = some gameData ∧
          s.servers.lookup gameData.info.serverIdx = some g)

/-- There is always somebody left who can give up a registered client. -/
theorem placed_of_run {strictKick : Bool} {history : List Occurrence}
    {s : AuthState} (hrun : AuthRun strictKick history s)
    {accountId : UInt32} {p : Addr}
    (hid : s.connectedClients.lookup accountId = some p) : s.Placed p := by
  have h := AuthRun.consistent hrun
  rcases h.clients.ofId hid with ⟨clientData, hp, -⟩
  refine ⟨clientData, hp, ?_⟩
  cases hserver : clientData.server with
  | none =>
      left
      cases hclient : clientData.client with
      | none =>
          have hbound := h.lobby.server_of_none hp hclient
          rw [hserver] at hbound
          cases hbound
      | some c =>
          rcases h.lobby.owner hp hclient with ⟨session, hc, hpointer⟩
          have houtside : clientData.inGame = false := by
            rw [← Bool.not_eq_true]
            intro hgame
            have hbound := h.lobby.server_of_inGame hp hgame
            rw [hserver] at hbound
            cases hbound
          exact ⟨c, session, rfl, rfl, houtside, hc, hpointer⟩
  | some g =>
      right
      rcases h.bound.server hp hserver with ⟨gameData, hg⟩
      exact ⟨g, gameData, h.lobby.none_of_server hp hserver, rfl, hg,
        h.servers.toIdx hg⟩

theorem placed_of_run_lobby :
    exists history s, AuthRun false history s ∧ s.Placed 4 := by
  have hreplay : (replay (nextStep false) AuthState.initial lobbyEvents).map
      (fun result => result.2.connectedClients.lookup 7) = some (some 4) := by
    decide +kernel
  rcases Option.map_eq_some_iff.mp hreplay with ⟨⟨history, s⟩, heq, hid⟩
  have hrun := replay_run (nextStep_step false) Run.nil heq
  exact ⟨history, s, hrun, placed_of_run hrun hid⟩

end Auth
end Rzu
