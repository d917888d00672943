import Rzu.Auth.System

/-!
# Consistency of the auth server

What the objects of the server say about each other.  Each group speaks about
a few fields of the state only, so that what leaves these fields alone keeps
it.
-/

namespace Rzu
namespace Auth

section Groups

variable (clientDatas : Addr -> Option ClientData)
variable (gameDatas : Addr -> Option GameData)
variable (clientSessions : Addr -> Option ClientSession)
variable (gameSessions : Addr -> Option GameServerSession)

/-- The two maps hold the live client data, under their id and their name. -/
structure ClientIndex (byId : AList fun _ : UInt32 => Addr)
    (byName : AList fun _ : CharString => Addr) : Prop where
  ofId : forall {accountId p}, byId.lookup accountId = some p ->
    exists clientData, clientDatas p = some clientData ∧
      clientData.accountId = accountId
  ofName : forall {name p}, byName.lookup name = some p ->
    exists clientData, clientDatas p = some clientData ∧
      toLower clientData.account = name
  toId : forall {p clientData}, clientDatas p = some clientData ->
    byId.lookup clientData.accountId = some p
  toName : forall {p clientData}, clientDatas p = some clientData ->
    byName.lookup (toLower clientData.account) = some p

/-- Client data in the lobby belongs to the session that points at it. -/
structure Lobby : Prop where
  owner : forall {p clientData c}, clientDatas p = some clientData ->
    clientData.client = some c ->
      exists session, clientSessions c = some session ∧
        session.clientData = some p
  server_of_none : forall {p clientData}, clientDatas p = some clientData ->
    clientData.client = none -> clientData.server.isSome = true
  none_of_server : forall {p clientData g},
    clientDatas p = some clientData ->
      clientData.server = some g -> clientData.client = none
  server_of_inGame : forall {p clientData},
    clientDatas p = some clientData ->
      clientData.inGame = true -> clientData.server.isSome = true

/-- Client data is bound to live game data only. -/
structure Bound : Prop where
  server : forall {p clientData g}, clientDatas p = some clientData ->
    clientData.server = some g ->
      exists gameData, gameDatas g = some gameData

/-- The map of servers holds the live game data, under their index. -/
structure ServerIndex (servers : AList fun _ : UInt16 => Addr) : Prop where
  ofIdx : forall {idx g}, servers.lookup idx = some g ->
    exists gameData, gameDatas g = some gameData ∧
      gameData.info.serverIdx = idx
  toIdx : forall {g gameData}, gameDatas g = some gameData ->
    servers.lookup gameData.info.serverIdx = some g

/-- Game data and game server sessions point at each other. -/
structure Paired : Prop where
  session : forall {g gameData x}, gameDatas g = some gameData ->
    gameData.gameServerSession = some x ->
      exists session, gameSessions x = some session ∧
        session.gameData = some g
  gameData : forall {x session g}, gameSessions x = some session ->
    session.gameData = some g ->
      exists gameData, gameDatas g = some gameData ∧
        gameData.gameServerSession = some x

end Groups

structure Consistent (s : AuthState) : Prop where
  clients : ClientIndex s.clientDatas s.connectedClients
    s.connectedClientsByName
  lobby : Lobby s.clientDatas s.clientSessions
  bound : Bound s.clientDatas s.gameDatas
  servers : ServerIndex s.gameDatas s.servers
  paired : Paired s.gameDatas s.gameSessions

/-- What the registry of clients relies on. -/
structure Indexed (s : AuthState) : Prop where
  clients : ClientIndex s.clientDatas s.connectedClients
    s.connectedClientsByName
  bound : Bound s.clientDatas s.gameDatas

theorem Consistent.indexed {s : AuthState} (h : Consistent s) :
    Indexed s :=
  ⟨h.clients, h.bound⟩

theorem consistent_initial : Consistent AuthState.initial := by
  constructor
  · constructor
    · intro accountId p h
      cases h
    · intro name p h
      cases h
    · intro p clientData h
      cases h
    · intro p clientData h
      cases h
  · constructor
    · intro p clientData c h
      cases h
    · intro p clientData h
      cases h
    · intro p clientData g h
      cases h
    · intro p clientData h
      cases h
  · constructor
    intro p clientData g h
    cases h
  · constructor
    · intro idx g h
      cases h
    · intro g gameData h
      cases h
  · constructor
    · intro g gameData x h
      cases h
    · intro x session g h
      cases h

/-!
## Objects that change

Updating an object without touching the fields that the maps are ordered by, or
the pointers between the objects, keeps the groups.
-/

section Update

variable {clientDatas : Addr -> Option ClientData}
variable {gameDatas gameDatas' : Addr -> Option GameData}
variable {clientSessions : Addr -> Option ClientSession}
variable {gameSessions : Addr -> Option GameServerSession}

theorem update_eq_some {object : Type} {heap : Addr -> Option object}
    {p q : Addr} {new : Option object} {found : object}
    (h : Function.update heap p new q = some found) :
    (q = p ∧ new = some found) ∨ (q ≠ p ∧ heap q = some found) := by
  by_cases hq : q = p
  · subst hq
    rw [Function.update_self] at h
    exact Or.inl ⟨rfl, h⟩
  · rw [Function.update_of_ne hq] at h
    exact Or.inr ⟨hq, h⟩

/-- Servers that keep their index and their session. -/
def SameServers (gameDatas gameDatas' : Addr -> Option GameData) : Prop :=
  forall g, (gameDatas' g).map (fun d => (d.info, d.gameServerSession)) =
    (gameDatas g).map fun d => (d.info, d.gameServerSession)

namespace SameServers

theorem rfl (gameDatas : Addr -> Option GameData) :
    SameServers gameDatas gameDatas := by
  intro g
  exact Eq.refl _

theorem trans {gameDatas'' : Addr -> Option GameData}
    (h : SameServers gameDatas gameDatas')
    (h' : SameServers gameDatas' gameDatas'') :
    SameServers gameDatas gameDatas'' := by
  intro g
  exact (h' g).trans (h g)

theorem symm (h : SameServers gameDatas gameDatas') :
    SameServers gameDatas' gameDatas := by
  intro g
  exact (h g).symm

theorem update {g : Addr} {gameData gameData' : GameData}
    (hold : gameDatas g = some gameData)
    (hinfo : gameData'.info = gameData.info)
    (hsession : gameData'.gameServerSession = gameData.gameServerSession) :
    SameServers gameDatas (Function.update gameDatas g (some gameData')) := by
  intro g'
  by_cases hg : g' = g
  · subst hg
    rw [Function.update_self, hold, Option.map_some, Option.map_some, hinfo,
      hsession]
  · rw [Function.update_of_ne hg]

theorem exists_some (h : SameServers gameDatas gameDatas') {g : Addr}
    {gameData : GameData} (hold : gameDatas g = some gameData) :
    exists gameData', gameDatas' g = some gameData' ∧
      gameData'.info = gameData.info ∧
        gameData'.gameServerSession = gameData.gameServerSession := by
  have hg := h g
  rw [hold, Option.map_some] at hg
  rcases Option.map_eq_some_iff.mp hg with ⟨gameData', hnew, hpair⟩
  exact ⟨gameData', hnew, congrArg Prod.fst hpair, congrArg Prod.snd hpair⟩

theorem bound (h : SameServers gameDatas gameDatas')
    (hbound : Bound clientDatas gameDatas) :
    Bound clientDatas gameDatas' := by
  constructor
  intro p clientData g hp hserver
  rcases hbound.server hp hserver with ⟨gameData, hg⟩
  rcases h.exists_some hg with ⟨gameData', hg', -, -⟩
  exact ⟨gameData', hg'⟩

theorem serverIndex {servers : AList fun _ : UInt16 => Addr}
    (h : SameServers gameDatas gameDatas')
    (hindex : ServerIndex gameDatas servers) :
    ServerIndex gameDatas' servers := by
  constructor
  · intro idx g hlookup
    rcases hindex.ofIdx hlookup with ⟨gameData, hg, hidx⟩
    rcases h.exists_some hg with ⟨gameData', hg', hinfo, -⟩
    exact ⟨gameData', hg', hinfo ▸ hidx⟩
  · intro g gameData' hg'
    rcases h.symm.exists_some hg' with ⟨gameData, hg, hinfo, -⟩
    rw [← hinfo]
    exact hindex.toIdx hg

theorem paired (h : SameServers gameDatas gameDatas')
    (hpaired : Paired gameDatas gameSessions) :
    Paired gameDatas' gameSessions := by
  constructor
  · intro g gameData' x hg' hx
    rcases h.symm.exists_some hg' with ⟨gameData, hg, -, hsession⟩
    exact hpaired.session hg (hsession ▸ hx)
  · intro x session g hx hg
    rcases hpaired.gameData hx hg with ⟨gameData, hgame, hback⟩
    rcases h.exists_some hgame with ⟨gameData', hg', -, hsession⟩
    exact ⟨gameData', hg', hsession.trans hback⟩

end SameServers

theorem ClientIndex.update {byId : AList fun _ : UInt32 => Addr}
    {byName : AList fun _ : CharString => Addr}
    (h : ClientIndex clientDatas byId byName) {p : Addr}
    {clientData clientData' : ClientData}
    (hold : clientDatas p = some clientData)
    (hid : clientData'.accountId = clientData.accountId)
    (haccount : clientData'.account = clientData.account) :
    ClientIndex (Function.update clientDatas p (some clientData'))
      byId byName := by
  constructor
  · intro accountId q hlookup
    rcases h.ofId hlookup with ⟨found, hfound, hkey⟩
    by_cases hq : q = p
    · subst hq
      rw [hold] at hfound
      cases hfound
      exact ⟨clientData', Function.update_self _ _ _, hid.trans hkey⟩
    · exact ⟨found, (Function.update_of_ne hq _ _).trans hfound, hkey⟩
  · intro name q hlookup
    rcases h.ofName hlookup with ⟨found, hfound, hkey⟩
    by_cases hq : q = p
    · subst hq
      rw [hold] at hfound
      cases hfound
      exact ⟨clientData', Function.update_self _ _ _, haccount ▸ hkey⟩
    · exact ⟨found, (Function.update_of_ne hq _ _).trans hfound, hkey⟩
  · intro q found hfound
    rcases update_eq_some hfound with ⟨hq, hnew⟩ | ⟨-, hsame⟩
    · cases hnew
      rw [hq, hid]
      exact h.toId hold
    · exact h.toId hsame
  · intro q found hfound
    rcases update_eq_some hfound with ⟨hq, hnew⟩ | ⟨-, hsame⟩
    · cases hnew
      rw [hq, haccount]
      exact h.toName hold
    · exact h.toName hsame

theorem Bound.update (h : Bound clientDatas gameDatas) {p : Addr}
    {clientData' : ClientData}
    (hserver : forall g, clientData'.server = some g ->
      exists gameData, gameDatas g = some gameData) :
    Bound (Function.update clientDatas p (some clientData')) gameDatas := by
  constructor
  intro q found g hfound hg
  rcases update_eq_some hfound with ⟨-, hnew⟩ | ⟨-, hsame⟩
  · cases hnew
    exact hserver g hg
  · exact h.server hsame hg

end Update

end Auth
end Rzu
