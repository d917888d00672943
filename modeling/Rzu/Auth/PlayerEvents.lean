import Rzu.Auth.ClientEvents
import Rzu.Auth.ServerEvents

/-!
# Players that a game server reports

Every way in which an account list, a client login or a notice of a game server
changes the server, and that none of them makes it inconsistent.
-/

namespace Rzu
namespace Auth

open Library

namespace AuthState

/-- Client data of an account that is in game according to a list. -/
def listedClientData (g : Addr) (accountInfo : AccountInfo) : ClientData :=
  { newClientData none accountInfo.data with
    oneTimePassword := some 0
    server := some g
    inGame := true
    loginTime := some accountInfo.time }

def registerInGame (s : AuthState) (p g : Addr) (gameData : GameData)
    (clientData : ClientData) : AuthState :=
  (s.register p clientData).setGameData g gameData.incPlayerCount

def enterGame (s : AuthState) (p g : Addr) (clientData : ClientData)
    (gameData : GameData) (now : Int64) : AuthState :=
  (s.setGameData g gameData.incPlayerCount).setClientData p
    { clientData with inGame := true, loginTime := some now }

theorem sameServers_incPlayerCount {s : AuthState} {g : Addr}
    {gameData : GameData} (hg : s.gameDatas g = some gameData) :
    SameServers s.gameDatas
      (Function.update s.gameDatas g (some gameData.incPlayerCount)) :=
  SameServers.update hg rfl rfl

theorem consistent_registerInGame {s : AuthState} (h : Consistent s)
    {p g : Addr} {gameData : GameData} {accountInfo : AccountInfo}
    (hvacant : Vacant s p accountInfo.data)
    (hg : s.gameDatas g = some gameData) :
    Consistent (s.registerInGame p g gameData
      (listedClientData g accountInfo)) := by
  have hservers := sameServers_incPlayerCount hg
  constructor
  · exact clientIndex_register h.indexed hvacant.free hvacant.id hvacant.name
  · constructor
    · intro q found c hq hc
      rcases update_eq_some hq with ⟨-, hnew⟩ | ⟨-, hsame⟩
      · cases hnew
        cases hc
      · exact h.lobby.owner hsame hc
    · intro q found hq hclient
      rcases update_eq_some hq with ⟨-, hnew⟩ | ⟨-, hsame⟩
      · cases hnew
        rfl
      · exact h.lobby.server_of_none hsame hclient
    · intro q found g' hq hg'
      rcases update_eq_some hq with ⟨-, hnew⟩ | ⟨-, hsame⟩
      · cases hnew
        rfl
      · exact h.lobby.none_of_server hsame hg'
    · intro q found hq hgame
      rcases update_eq_some hq with ⟨-, hnew⟩ | ⟨-, hsame⟩
      · cases hnew
        rfl
      · exact h.lobby.server_of_inGame hsame hgame
  · apply (hservers.bound h.bound).update
    intro g' hg'
    cases hg'
    exact ⟨_, Function.update_self _ _ _⟩
  · exact hservers.serverIndex h.servers
  · exact hservers.paired h.paired

theorem consistent_enterGame {s : AuthState} (h : Consistent s)
    {p g : Addr} {clientData : ClientData} {gameData : GameData}
    (hp : s.clientDatas p = some clientData)
    (hserver : clientData.server = some g)
    (hg : s.gameDatas g = some gameData) (now : Int64) :
    Consistent (s.enterGame p g clientData gameData now) := by
  have hservers := sameServers_incPlayerCount hg
  have hbound := hservers.bound h.bound
  constructor
  · exact h.clients.update hp rfl rfl
  · apply h.lobby.updateClient hp
    · rfl
    · rfl
    · intro _
      rw [hserver]
      rfl
  · apply hbound.update
    intro g' hg'
    exact hbound.server hp hg'
  · exact hservers.serverIndex h.servers
  · exact hservers.paired h.paired

/-!
## Account lists
-/

/-- The accounts of a final list, added where nobody is in the way. -/
inductive Adds (x g : Addr) : List AccountInfo -> List Addr -> AuthState ->
    List Output -> AuthState -> Prop where
  | nil (newClients : List Addr) (s : AuthState) :
      Adds x g [] newClients s [] s
  | added {accountInfo : AccountInfo} {rest : List AccountInfo} {p : Addr}
      {newClients : List Addr} {s s' : AuthState} {gameData : GameData}
      {outputs : List Output} (hvacant : Vacant s p accountInfo.data)
      (hg : s.gameDatas g = some gameData)
      (later : Adds x g rest newClients
        (s.registerInGame p g gameData (listedClientData g accountInfo))
        outputs s') :
      Adds x g (accountInfo :: rest) (p :: newClients) s outputs s'
  | kicked {accountInfo : AccountInfo} {rest : List AccountInfo} {p : Addr}
      {newClients : List Addr} {s s' : AuthState} {q : Addr}
      {old : ClientData} {outputs : List Output}
      (hold : s.clientDatas q = some old)
      (hsame : old.accountId = accountInfo.data.accountId ∨
        toLower old.account = toLower accountInfo.data.account)
      (later : Adds x g rest newClients s outputs s') :
      Adds x g (accountInfo :: rest) (p :: newClients) s
        (Output.kickClient x accountInfo.name :: outputs) s'

theorem enterFromList_eq {s : AuthState} {p g : Addr}
    {gameData : GameData} (accountInfo : AccountInfo)
    (hg : s.gameDatas g = some gameData) :
    (s.register p (newClientData none accountInfo.data)).enterFromList g p
      accountInfo =
        some (s.registerInGame p g gameData
          (listedClientData g accountInfo), []) := by
  simp only [enterFromList, switchClientToServer, connectedToGame,
    countPlayer, register, registerInGame, setClientData, setGameData,
    Function.update_self, Function.update_idem, hg, Option.bind_eq_bind,
    Option.bind_some, Option.map_some, Option.pure_def]
  rfl

theorem addAccounts_cases {s s' : AuthState} (h : Consistent s)
    {x g : Addr} {gameData : GameData}
    (hg : s.gameDatas g = some gameData) {accounts : List AccountInfo}
    {newClients : List Addr} {outputs : List Output}
    (hstep : s.addAccounts x g accounts newClients = some (s', outputs)) :
    Adds x g accounts newClients s outputs s' := by
  induction accounts generalizing s gameData newClients outputs with
  | nil =>
      cases hstep
      exact Adds.nil _ _
  | cons accountInfo rest ih =>
      cases newClients with
      | nil => cases hstep
      | cons p newClients =>
          rcases Option.bind_eq_some_iff.mp hstep with
            ⟨⟨first, sent⟩, hfirst, hrest⟩
          rcases Option.bind_eq_some_iff.mp hrest with
            ⟨⟨last, answers⟩, hlast, hpair⟩
          cases hpair
          rcases Option.bind_eq_some_iff.mp hfirst with
            ⟨result, hadd, hone⟩
          cases tryAddClient_cases h.indexed hadd with
          | added hvacant =>
              have henter := enterFromList_eq (p := p) accountInfo hg
              change enterFromList _ g p accountInfo = _ at hone
              rw [henter] at hone
              cases hone
              apply Adds.added hvacant hg
              exact ih (consistent_registerInGame h hvacant hg)
                (Function.update_self _ _ _) hlast
          | conflict hold hsame =>
              cases hone
              exact Adds.kicked hold hsame (ih h hg hlast)

namespace Adds

variable {x g : Addr} {accounts : List AccountInfo}
variable {newClients : List Addr} {s s' : AuthState}
variable {outputs : List Output}

theorem consistent (hadds : Adds x g accounts newClients s outputs s')
    (h : Consistent s) : Consistent s' := by
  induction hadds with
  | nil newClients s => exact h
  | added hvacant hg later ih =>
      exact ih (consistent_registerInGame h hvacant hg)
  | kicked hold hsame later ih => exact ih h

theorem clientDatas (hadds : Adds x g accounts newClients s outputs s')
    {q : Addr} {found : ClientData} (hq : s.clientDatas q = some found) :
    s'.clientDatas q = some found := by
  induction hadds with
  | nil newClients s => exact hq
  | added hvacant hg later ih =>
      rename_i p _ s _ _ _
      apply ih
      have hne : q ≠ p := by
        intro heq
        rw [heq, hvacant.free] at hq
        cases hq
      exact (Function.update_of_ne hne _ _).trans hq
  | kicked hold hsame later ih => exact ih hq

theorem clientDatas_cases
    (hadds : Adds x g accounts newClients s outputs s') {q : Addr}
    {found : ClientData} (hq : s'.clientDatas q = some found) :
    s.clientDatas q = some found ∨
      exists accountInfo, accountInfo ∈ accounts ∧
        found = listedClientData g accountInfo := by
  induction hadds with
  | nil newClients s => exact Or.inl hq
  | added hvacant hg later ih =>
      rcases ih hq with hold | ⟨accountInfo, hmem, heq⟩
      · rcases update_eq_some hold with ⟨-, hnew⟩ | ⟨-, hsame⟩
        · cases hnew
          exact Or.inr ⟨_, List.mem_cons_self, rfl⟩
        · exact Or.inl hsame
      · exact Or.inr ⟨accountInfo, List.mem_cons_of_mem _ hmem, heq⟩
  | kicked hold hsame later ih =>
      rcases ih hq with hold | ⟨accountInfo, hmem, heq⟩
      · exact Or.inl hold
      · exact Or.inr ⟨accountInfo, List.mem_cons_of_mem _ hmem, heq⟩

theorem sameServers (hadds : Adds x g accounts newClients s outputs s') :
    SameServers s.gameDatas s'.gameDatas := by
  induction hadds with
  | nil newClients s => exact SameServers.rfl _
  | added hvacant hg later ih =>
      exact (sameServers_incPlayerCount hg).trans ih
  | kicked hold hsame later ih => exact ih

theorem clientSessions
    (hadds : Adds x g accounts newClients s outputs s') :
    s'.clientSessions = s.clientSessions := by
  induction hadds with
  | nil newClients s => rfl
  | added hvacant hg later ih => exact ih
  | kicked hold hsame later ih => exact ih

theorem gameSessions (hadds : Adds x g accounts newClients s outputs s') :
    s'.gameSessions = s.gameSessions := by
  induction hadds with
  | nil newClients s => rfl
  | added hvacant hg later ih => exact ih
  | kicked hold hsame later ih => exact ih

end Adds

/-- Enough free addresses for the accounts of a list. -/
structure Allocates (s : AuthState) (newClients : List Addr)
    (count : Nat) : Prop where
  enough : count ≤ newClients.length
  distinct : newClients.Nodup
  free : forall p, p ∈ newClients -> s.clientDatas p = none

theorem addAccounts_total {s : AuthState} (h : Consistent s)
    {x g : Addr} {gameData : GameData}
    (hg : s.gameDatas g = some gameData) {accounts : List AccountInfo}
    {newClients : List Addr}
    (halloc : Allocates s newClients accounts.length) :
    exists result, s.addAccounts x g accounts newClients = some result := by
  induction accounts generalizing s gameData newClients with
  | nil => exact ⟨_, rfl⟩
  | cons accountInfo rest ih =>
      cases newClients with
      | nil => exact absurd halloc.enough (by simp)
      | cons p newClients =>
          have hlater : Allocates s newClients rest.length := by
            constructor
            · exact Nat.le_of_succ_le_succ halloc.enough
            · exact halloc.distinct.of_cons
            · intro q hq
              exact halloc.free q (List.mem_cons_of_mem _ hq)
          have hfree := halloc.free p List.mem_cons_self
          rcases tryAddClient_total hfree none accountInfo.data with
            ⟨result, hadd⟩
          cases tryAddClient_cases h.indexed hadd with
          | added hvacant =>
              have hnext : Allocates
                  (s.registerInGame p g gameData
                    (listedClientData g accountInfo))
                  newClients rest.length := by
                refine ⟨hlater.enough, hlater.distinct, ?_⟩
                intro q hq
                have hne : q ≠ p := by
                  intro heq
                  subst heq
                  exact (List.nodup_cons.mp halloc.distinct).left hq
                exact (Function.update_of_ne hne _ _).trans
                  (hlater.free q hq)
              rcases ih (consistent_registerInGame h hvacant hg)
                (Function.update_self _ _ _) hnext with ⟨last, hlast⟩
              have henter := enterFromList_eq (p := p) accountInfo hg
              have hfirst : s.addAccount x g accountInfo p =
                  some (s.registerInGame p g gameData
                    (listedClientData g accountInfo), []) := by
                rw [addAccount, hadd]
                exact henter
              refine ⟨(last.1, [] ++ last.2), ?_⟩
              rw [addAccounts, hfirst, Option.bind_eq_bind,
                Option.bind_some, hlast]
              rfl
          | conflict hold hsame =>
              rcases ih h hg hlater with ⟨last, hlast⟩
              refine ⟨(last.1,
                [Output.kickClient x accountInfo.name] ++ last.2), ?_⟩
              rw [addAccounts, addAccount, hadd]
              simp only [Option.bind_eq_bind, Option.bind_some,
                Option.pure_def, hlast]

/-- Nobody is in the way of the accounts of a list. -/
structure Unclaimed (s : AuthState) (accounts : List AccountInfo) :
    Prop where
  ids : (accounts.map fun accountInfo => accountInfo.data.accountId).Nodup
  names : (accounts.map fun accountInfo =>
    toLower accountInfo.data.account).Nodup
  others : forall accountInfo, accountInfo ∈ accounts ->
    forall p clientData, s.clientDatas p = some clientData ->
      clientData.accountId ≠ accountInfo.data.accountId ∧
        toLower clientData.account ≠ toLower accountInfo.data.account

theorem Unclaimed.registerInGame {s : AuthState}
    {accountInfo : AccountInfo} {rest : List AccountInfo}
    (h : Unclaimed s (accountInfo :: rest)) (p g : Addr)
    (gameData : GameData) :
    Unclaimed (s.registerInGame p g gameData
      (listedClientData g accountInfo)) rest := by
  rcases List.nodup_cons.mp h.ids with ⟨hid, hids⟩
  rcases List.nodup_cons.mp h.names with ⟨hname, hnames⟩
  refine ⟨hids, hnames, ?_⟩
  intro later hlater q clientData hq
  rcases update_eq_some hq with ⟨-, hnew⟩ | ⟨-, hold⟩
  · cases hnew
    constructor
    · intro heq
      exact hid (List.mem_map.mpr ⟨later, hlater, heq.symm⟩)
    · intro heq
      exact hname (List.mem_map.mpr ⟨later, hlater, heq.symm⟩)
  · exact h.others later (List.mem_cons_of_mem _ hlater) q clientData hold

theorem Adds.listed {x g : Addr} {accounts : List AccountInfo}
    {newClients : List Addr} {s s' : AuthState} {outputs : List Output}
    (hadds : Adds x g accounts newClients s outputs s')
    (hunclaimed : Unclaimed s accounts) {accountInfo : AccountInfo}
    (hmem : accountInfo ∈ accounts) :
    exists p, s'.clientDatas p = some (listedClientData g accountInfo) := by
  induction hadds with
  | nil newClients s => cases hmem
  | added hvacant hg later ih =>
      rcases List.mem_cons.mp hmem with hfirst | hrest
      · subst hfirst
        exact ⟨_, later.clientDatas (Function.update_self _ _ _)⟩
      · exact ih (hunclaimed.registerInGame _ _ _) hrest
  | kicked hold hsame later ih =>
      rcases hunclaimed.others _ List.mem_cons_self _ _ hold with
        ⟨hid, hname⟩
      rcases hsame with heq | heq
      · exact absurd heq hid
      · exact absurd heq hname

def synchronized (s : AuthState) (x g : Addr) (session : GameServerSession)
    (gameData : GameData) : AuthState :=
  (s.setGameData g { gameData with ready := true }).setGameSession x
    { session with alreadyConnectedAccounts := [] }

theorem synchronized_gameDatas (s : AuthState) (x g : Addr)
    (session : GameServerSession) (gameData : GameData) :
    (s.synchronized x g session gameData).gameDatas g =
      some { gameData with ready := true } :=
  Function.update_self _ _ _

def collect (s : AuthState) (x : Addr) (session : GameServerSession)
    (packet : AccountList) : AuthState :=
  s.setGameSession x
    { session with
      alreadyConnectedAccounts := collectedAccounts session packet }

inductive AccountListCase (s : AuthState) (x : Addr) (packet : AccountList)
    (newClients : List Addr) : AuthState -> List Output -> Prop where
  | ignored (hignored : (s.gameSessions x).bind
        GameServerSession.gameData = none ∨
          packet.expectedSize ≠ packet.size) :
      AccountListCase s x packet newClients s []
  | collected {session : GameServerSession} {g : Addr}
      (hx : s.gameSessions x = some session)
      (hback : session.gameData = some g)
      (hsize : packet.expectedSize = packet.size)
      (hfinal : packet.finalPacket = false) :
      AccountListCase s x packet newClients
        (s.collect x session packet) []
  | synchronized {session : GameServerSession} {g : Addr}
      {gameData : GameData} {cleared added : AuthState}
      {outputs : List Output} (hx : s.gameSessions x = some session)
      (hback : session.gameData = some g)
      (hsize : packet.expectedSize = packet.size)
      (hfinal : packet.finalPacket = true)
      (hforgets : Forgets g (s.collect x session packet) cleared)
      (hgone : forall p clientData,
        cleared.clientDatas p = some clientData ->
          clientData.server ≠ some g)
      (hadds : Adds x g (collectedAccounts session packet) newClients
        cleared outputs added)
      (hg : added.gameDatas g = some gameData) :
      AccountListCase s x packet newClients
        (added.synchronized x g session gameData) outputs

theorem synchronize_cases {s s' : AuthState} (h : Consistent s)
    {x g : Addr} {session : GameServerSession}
    {accounts : List AccountInfo} {newClients : List Addr}
    {outputs : List Output} (hx : s.gameSessions x = some session)
    (hback : session.gameData = some g)
    (hstep : s.synchronize x g accounts newClients = some (s', outputs)) :
    exists cleared added gameData, Forgets g s cleared ∧
      (forall p clientData, cleared.clientDatas p = some clientData ->
        clientData.server ≠ some g) ∧
          Adds x g accounts newClients cleared outputs added ∧
            added.gameDatas g = some gameData ∧
              s' = added.synchronized x g session gameData := by
  rcases Option.bind_eq_some_iff.mp hstep with ⟨cleared, hclear, hrest⟩
  rcases Option.bind_eq_some_iff.mp hrest with
    ⟨⟨added, sent⟩, hadd, hrest⟩
  rcases Option.bind_eq_some_iff.mp hrest with ⟨ready, hready, hrest⟩
  rcases Option.bind_eq_some_iff.mp hrest with ⟨found, hfound, hpair⟩
  cases hpair
  rcases removeServer_cases h.indexed hclear with ⟨hforgets, hgone⟩
  rcases h.paired.gameData hx hback with ⟨old, hold, -⟩
  rcases hforgets.sameServers.exists_some hold with ⟨gameData, hg, -⟩
  have hadds := addAccounts_cases (hforgets.consistent h) hg hadd
  rcases hadds.sameServers.exists_some hg with ⟨gameData', hg', -⟩
  rw [setReady, hg'] at hready
  cases hready
  have hsession : added.gameSessions x = some session := by
    rw [hadds.gameSessions, hforgets.gameSessions]
    exact hx
  change added.gameSessions x = some found at hfound
  rw [hsession] at hfound
  cases hfound
  exact ⟨cleared, added, gameData', hforgets, hgone, hadds, hg', rfl⟩

theorem collect_gameSessions (s : AuthState) (x : Addr)
    (session : GameServerSession) (packet : AccountList) :
    (s.collect x session packet).gameSessions x =
      some { session with
        alreadyConnectedAccounts := collectedAccounts session packet } :=
  Function.update_self _ _ _

theorem consistent_collect {s : AuthState} (h : Consistent s) {x : Addr}
    {session : GameServerSession} (packet : AccountList)
    (hx : s.gameSessions x = some session) :
    Consistent (s.collect x session packet) := by
  apply consistent_updateGameSession h
  rw [hx]
  rfl

theorem onAccountList_cases {s s' : AuthState} (h : Consistent s)
    {x : Addr} {packet : AccountList} {newClients : List Addr}
    {outputs : List Output}
    (hstep : s.onAccountList x packet newClients = some (s', outputs)) :
    AccountListCase s x packet newClients s' outputs := by
  rcases Option.bind_eq_some_iff.mp hstep with ⟨session, hx, hrest⟩
  split at hrest
  · rename_i hnone
    cases hrest
    exact AccountListCase.ignored (Or.inl (by rw [hx]; exact hnone))
  · rename_i g hback
    split at hrest
    · rename_i hsize
      cases hrest
      exact AccountListCase.ignored (Or.inr hsize)
    · rename_i hsize
      split at hrest
      · rename_i hfinal
        rcases synchronize_cases (consistent_collect h packet hx)
          (Function.update_self _ _ _) hback hrest with
          ⟨cleared, added, gameData, hforgets, hgone, hadds, hg, heq⟩
        subst heq
        have hcase := AccountListCase.synchronized hx hback
          (Decidable.not_not.mp hsize) hfinal hforgets hgone hadds hg
        exact hcase
      · rename_i hfinal
        cases hrest
        exact AccountListCase.collected hx hback
          (Decidable.not_not.mp hsize) (Bool.eq_false_iff.mpr hfinal)

theorem consistent_synchronized {s : AuthState} (h : Consistent s)
    {x g : Addr} {session found : GameServerSession} {gameData : GameData}
    (hx : s.gameSessions x = some found)
    (hback : found.gameData = session.gameData)
    (hg : s.gameDatas g = some gameData) :
    Consistent (s.synchronized x g session gameData) := by
  have hservers : SameServers s.gameDatas (Function.update s.gameDatas g
      (some { gameData with ready := true })) :=
    SameServers.update hg rfl rfl
  constructor
  · exact h.clients
  · exact h.lobby
  · exact hservers.bound h.bound
  · exact hservers.serverIndex h.servers
  · apply (hservers.paired h.paired).updateSession
    rw [hx]
    exact hback.symm

theorem consistent_onAccountList {s s' : AuthState} (h : Consistent s)
    {x : Addr} {packet : AccountList} {newClients : List Addr}
    {outputs : List Output}
    (hstep : s.onAccountList x packet newClients = some (s', outputs)) :
    Consistent s' := by
  cases onAccountList_cases h hstep with
  | ignored hignored => exact h
  | collected hx hback hsize hfinal => exact consistent_collect h packet hx
  | synchronized hx hback hsize hfinal hforgets hgone hadds hg =>
      have hcollected := consistent_collect h packet hx
      have hadded := hadds.consistent (hforgets.consistent hcollected)
      have hsession := congrFun
        (hadds.gameSessions.trans hforgets.gameSessions) x
      rw [collect_gameSessions] at hsession
      exact consistent_synchronized hadded hsession rfl hg

/-!
## Clients that enter and leave
-/

/-- The client enters the game only if everything agrees. -/
structure MayEnter (clientData : ClientData) (gameData : GameData)
    (g : Addr) (packet : ClientLogin) : Prop where
  server : clientData.server = some g
  ready : gameData.isReady = true
  key : clientData.oneTimePassword = some packet.oneTimeKey
  outside : clientData.inGame = false

theorem clientLoginCheck_success {s : AuthState} {g p : Addr}
    {packet : ClientLogin} {clientData : ClientData} {gameData : GameData}
    (hp : s.clientDatas p = some clientData)
    (hg : s.gameDatas g = some gameData)
    (hcheck : s.clientLoginCheck g p packet = some ResultCode.success) :
    MayEnter clientData gameData g packet := by
  simp only [clientLoginCheck, hp, hg, Option.bind_eq_bind,
    Option.bind_some] at hcheck
  split at hcheck
  · cases hcheck
  · split at hcheck
    · cases hcheck
    · split at hcheck
      · cases hcheck
      · rename_i hserver
        split at hcheck
        · cases hcheck
        · rename_i hready
          split at hcheck
          · cases hcheck
          · rename_i hkey
            split at hcheck
            · cases hcheck
            · rename_i houtside
              exact ⟨not_not.mp hserver, Bool.of_not_eq_false hready,
                not_not.mp hkey, Bool.of_not_eq_true houtside⟩

inductive ClientLoginCase (s : AuthState) (x : Addr) (packet : ClientLogin)
    (now : Int64) : AuthState -> List Output -> Prop where
  | refused {message : ClientLoginResult}
      (hresult : message.result ≠ ResultCode.success) :
      ClientLoginCase s x packet now s [Output.clientLogin x message]
  | entered {session : GameServerSession} {g p : Addr}
      {clientData : ClientData} {gameData : GameData}
      {message : ClientLoginResult} (hx : s.gameSessions x = some session)
      (hback : session.gameData = some g)
      (hname : s.getClient (packetAccount packet.account) = some p)
      (hp : s.clientDatas p = some clientData)
      (hg : s.gameDatas g = some gameData)
      (henter : MayEnter clientData gameData g packet)
      (hresult : message.result = ResultCode.success) :
      ClientLoginCase s x packet now
        (s.enterGame p g clientData gameData now)
        [Output.clientLogin x message]

theorem clientLoginResult_result (useAutoReconnectFeature : Bool)
    (account : CharString) (result : ResultCode)
    (clientData : Option ClientData) :
    (clientLoginResult useAutoReconnectFeature account result
      clientData).result = result := by
  unfold clientLoginResult
  split
  · rfl
  · rfl

theorem loginClient_cases {s s' : AuthState} {x g p : Addr}
    {session : GameServerSession} {packet : ClientLogin} {now : Int64}
    {outputs : List Output} (hx : s.gameSessions x = some session)
    (hback : session.gameData = some g)
    (hname : s.getClient (packetAccount packet.account) = some p)
    (hstep : s.loginClient x g p session.useAutoReconnectFeature packet now =
      some (s', outputs)) :
    ClientLoginCase s x packet now s' outputs := by
  rcases Option.bind_eq_some_iff.mp hstep with ⟨result, hcheck, hrest⟩
  rcases Option.bind_eq_some_iff.mp hrest with ⟨next, henter, hrest⟩
  rcases Option.bind_eq_some_iff.mp hrest with ⟨found, hfound, hpair⟩
  cases hpair
  rcases Option.bind_eq_some_iff.mp hcheck with ⟨clientData, hp, hrest⟩
  rcases Option.bind_eq_some_iff.mp hrest with ⟨gameData, hg, -⟩
  by_cases hresult : result = ResultCode.success
  · subst hresult
    have hmay := clientLoginCheck_success hp hg hcheck
    have hcount : s.countPlayer clientData.server =
        some (s.setGameData g gameData.incPlayerCount) := by
      rw [hmay.server, countPlayer, hg, Option.map_some]
    change s.connectedToGame p now = some s' at henter
    simp only [connectedToGame, hp, hcount, Option.bind_eq_bind,
      Option.bind_some, Option.pure_def] at henter
    cases henter
    exact ClientLoginCase.entered hx hback hname hp hg hmay
      (clientLoginResult_result _ _ _ _)
  · have hsame : s' = s := by
      unfold enterIfSuccess at henter
      split at henter
      · exact absurd rfl hresult
      · cases henter
        rfl
    subst hsame
    apply ClientLoginCase.refused
    rw [clientLoginResult_result]
    exact hresult

theorem onClientLogin_cases {s s' : AuthState} {x : Addr}
    {packet : ClientLogin} {now : Int64} {outputs : List Output}
    (hstep : s.onClientLogin x packet now = some (s', outputs)) :
    ClientLoginCase s x packet now s' outputs := by
  rcases Option.bind_eq_some_iff.mp hstep with ⟨session, hx, hrest⟩
  split at hrest
  · rename_i g p hback hname
    exact loginClient_cases hx hback hname hrest
  · cases hrest
    apply ClientLoginCase.refused
    rw [clientLoginResult_result]
    decide

theorem consistent_onClientLogin {s s' : AuthState} (h : Consistent s)
    {x : Addr} {packet : ClientLogin} {now : Int64} {outputs : List Output}
    (hstep : s.onClientLogin x packet now = some (s', outputs)) :
    Consistent s' := by
  cases onClientLogin_cases hstep with
  | refused hresult => exact h
  | entered hx hback hname hp hg henter hresult =>
      exact consistent_enterGame h hp henter.server hg now

inductive NoticeCase (s : AuthState) (x : Addr)
    (account : Vector UInt8 61) : AuthState -> Prop where
  | ignored : NoticeCase s x account s
  | removed {session : GameServerSession} {g p : Addr}
      {clientData : ClientData} (hx : s.gameSessions x = some session)
      (hback : session.gameData = some g)
      (hname : s.getClient (packetAccount account) = some p)
      (hp : s.clientDatas p = some clientData) :
      NoticeCase s x account (s.forget p clientData)

theorem removeNamedClient_cases {s s' : AuthState} (h : Consistent s)
    {x : Addr} {account : Vector UInt8 61} {outputs : List Output}
    (hstep : s.removeNamedClient x account = some (s', outputs)) :
    NoticeCase s x account s' := by
  rcases Option.bind_eq_some_iff.mp hstep with ⟨session, hx, hrest⟩
  split at hrest
  · rename_i g p hback hname
    rcases Option.map_eq_some_iff.mp hrest with ⟨removed, hremove, hpair⟩
    cases hpair
    rcases removeClient_cases h.indexed hremove with ⟨clientData, hp, heq⟩
    subst heq
    exact NoticeCase.removed hx hback hname hp
  · cases hrest
    exact NoticeCase.ignored

theorem consistent_removeNamedClient {s s' : AuthState} (h : Consistent s)
    {x : Addr} {account : Vector UInt8 61} {outputs : List Output}
    (hstep : s.removeNamedClient x account = some (s', outputs)) :
    Consistent s' := by
  cases removeNamedClient_cases h hstep with
  | ignored => exact h
  | removed hx hback hname hp => exact consistent_forget h hp

/-!
## All events
-/

theorem consistent_handle {s s' : AuthState} (h : Consistent s)
    {strictKick : Bool} {event : Event} {outputs : List Output}
    (hstep : s.handle strictKick event = some (s', outputs)) :
    Consistent s' := by
  cases event with
  | clientConnected c =>
      rcases Option.map_eq_some_iff.mp hstep with ⟨next, hnext, hpair⟩
      cases hpair
      exact consistent_clientConnected h hnext
  | accountAuthResult c query newClient =>
      exact consistent_clientAuthResult h hstep
  | selectServer c serverIdx oneTimePassword =>
      exact consistent_onSelectServer h hstep
  | clientDisconnected c =>
      rcases Option.map_eq_some_iff.mp hstep with ⟨next, hnext, hpair⟩
      cases hpair
      exact consistent_onDisconnected h hnext
  | clientDestroyed c =>
      rcases Option.map_eq_some_iff.mp hstep with ⟨next, hnext, hpair⟩
      cases hpair
      exact consistent_deleteClientSession h hnext
  | gameConnected x =>
      rcases Option.map_eq_some_iff.mp hstep with ⟨next, hnext, hpair⟩
      cases hpair
      exact consistent_gameConnected h hnext
  | serverLogin x kind packet newGameData =>
      exact consistent_onServerLogin h hstep
  | accountList x packet newClients =>
      exact consistent_onAccountList h hstep
  | serverLogout x => exact consistent_onServerLogout h hstep
  | clientLogin x packet now => exact consistent_onClientLogin h hstep
  | clientLogout x account => exact consistent_removeNamedClient h hstep
  | clientKickFailed x account =>
      exact consistent_removeNamedClient h hstep
  | gameDisconnected x =>
      rcases Option.map_eq_some_iff.mp hstep with ⟨next, hnext, hpair⟩
      cases hpair
      exact consistent_deleteGameSession h hnext

end AuthState

theorem AuthRun.consistent {strictKick : Bool} {history : List Occurrence}
    {s : AuthState} (h : AuthRun strictKick history s) : Consistent s :=
  Run.invariant consistent_initial
    (fun hs hstep => AuthState.consistent_handle hs hstep) h

end Auth
end Rzu
