import Rzu.Auth.Pairing
import Rzu.Auth.Registry

/-!
# Game servers that come and go

Every way in which a login, a logout or the end of a game server session
changes the server, and that none of them makes it inconsistent.
-/

namespace Rzu
namespace Auth

section Groups

variable {gameDatas : Addr -> Option GameData}
variable {gameSessions : Addr -> Option GameServerSession}

theorem Paired.updateSession (h : Paired gameDatas gameSessions) {x : Addr}
    {new : Option GameServerSession}
    (hsame : new.bind GameServerSession.gameData =
      (gameSessions x).bind GameServerSession.gameData) :
    Paired gameDatas (Function.update gameSessions x new) := by
  constructor
  · intro g gameData y hg hy
    rcases h.session hg hy with ⟨session, hsession, hback⟩
    by_cases hx : y = x
    · subst hx
      rw [hsession, Option.bind_some, hback] at hsame
      rcases Option.bind_eq_some_iff.mp hsame with ⟨found, hnew, hfound⟩
      exact ⟨found, (Function.update_self _ _ _).trans hnew, hfound⟩
    · exact ⟨session, (Function.update_of_ne hx _ _).trans hsession, hback⟩
  · intro y session g hy hg
    rcases update_eq_some hy with ⟨heq, hnew⟩ | ⟨-, hold⟩
    · subst heq
      rw [hnew, Option.bind_some, hg] at hsame
      rcases Option.bind_eq_some_iff.mp hsame.symm with
        ⟨found, hfound, hback⟩
      exact h.gameData hfound hback
    · exact h.gameData hold hg

theorem Paired.part (h : Paired gameDatas gameSessions) {x g : Addr}
    {session : GameServerSession} {newData : Option GameData}
    {newSession : Option GameServerSession}
    (hx : gameSessions x = some session) (hback : session.gameData = some g)
    (hdata : newData.bind GameData.gameServerSession = none)
    (hsession : newSession.bind GameServerSession.gameData = none) :
    Paired (Function.update gameDatas g newData)
      (Function.update gameSessions x newSession) := by
  constructor
  · intro g' gameData y hg' hy
    rcases update_eq_some hg' with ⟨-, hnew⟩ | ⟨hne, hold⟩
    · rw [hnew, Option.bind_some, hy] at hdata
      cases hdata
    · rcases h.session hold hy with ⟨other, hother, hpair⟩
      have hxy : y ≠ x := by
        intro heq
        subst heq
        rw [hx] at hother
        cases hother
        rw [hback] at hpair
        cases hpair
        exact hne rfl
      exact ⟨other, (Function.update_of_ne hxy _ _).trans hother, hpair⟩
  · intro y other g' hy hg'
    rcases update_eq_some hy with ⟨-, hnew⟩ | ⟨hne, hold⟩
    · rw [hnew, Option.bind_some, hg'] at hsession
      cases hsession
    · rcases h.gameData hold hg' with ⟨gameData, hgame, hpair⟩
      have hgg : g' ≠ g := by
        intro heq
        subst heq
        rcases h.gameData hx hback with ⟨found, hfound, hfront⟩
        rw [hgame] at hfound
        cases hfound
        rw [hpair] at hfront
        cases hfront
        exact hne rfl
      exact ⟨gameData, (Function.update_of_ne hgg _ _).trans hgame, hpair⟩

theorem Paired.join (h : Paired gameDatas gameSessions) {x g : Addr}
    {newData : GameData} {newSession : GameServerSession}
    (hx : (gameSessions x).bind GameServerSession.gameData = none)
    (hg : (gameDatas g).bind GameData.gameServerSession = none)
    (hdata : newData.gameServerSession = some x)
    (hsession : newSession.gameData = some g) :
    Paired (Function.update gameDatas g (some newData))
      (Function.update gameSessions x (some newSession)) := by
  constructor
  · intro g' gameData y hg' hy
    rcases update_eq_some hg' with ⟨heq, hnew⟩ | ⟨-, hold⟩
    · cases hnew
      rw [hdata] at hy
      cases hy
      exact ⟨newSession, Function.update_self _ _ _, heq ▸ hsession⟩
    · rcases h.session hold hy with ⟨other, hother, hpair⟩
      have hxy : y ≠ x := by
        intro heq
        rw [← heq, hother, Option.bind_some, hpair] at hx
        cases hx
      exact ⟨other, (Function.update_of_ne hxy _ _).trans hother, hpair⟩
  · intro y other g' hy hg'
    rcases update_eq_some hy with ⟨heq, hnew⟩ | ⟨-, hold⟩
    · cases hnew
      rw [hsession] at hg'
      cases hg'
      exact ⟨newData, Function.update_self _ _ _, heq ▸ hdata⟩
    · rcases h.gameData hold hg' with ⟨gameData, hgame, hpair⟩
      have hgg : g' ≠ g := by
        intro heq
        rw [← heq, hgame, Option.bind_some, hpair] at hg
        cases hg
      exact ⟨gameData, (Function.update_of_ne hgg _ _).trans hgame, hpair⟩

theorem ServerIndex.update {servers : AList fun _ : UInt16 => Addr}
    (h : ServerIndex gameDatas servers) {g : Addr}
    {gameData gameData' : GameData} (hold : gameDatas g = some gameData)
    (hinfo : gameData'.info = gameData.info) :
    ServerIndex (Function.update gameDatas g (some gameData')) servers := by
  constructor
  · intro idx g' hlookup
    rcases h.ofIdx hlookup with ⟨found, hfound, hkey⟩
    by_cases hg : g' = g
    · subst hg
      rw [hold] at hfound
      cases hfound
      exact ⟨gameData', Function.update_self _ _ _, hinfo ▸ hkey⟩
    · exact ⟨found, (Function.update_of_ne hg _ _).trans hfound, hkey⟩
  · intro g' found hfound
    rcases update_eq_some hfound with ⟨heq, hnew⟩ | ⟨-, hsame⟩
    · cases hnew
      rw [heq, hinfo]
      exact h.toIdx hold
    · exact h.toIdx hsame

theorem ServerIndex.insert {servers : AList fun _ : UInt16 => Addr}
    (h : ServerIndex gameDatas servers) {g : Addr} {gameData : GameData}
    (hfree : gameDatas g = none)
    (hindex : servers.lookup gameData.info.serverIdx = none) :
    ServerIndex (Function.update gameDatas g (some gameData))
      (servers.insert gameData.info.serverIdx g) := by
  constructor
  · intro idx g' hlookup
    by_cases hkey : idx = gameData.info.serverIdx
    · rw [hkey, AList.lookup_insert] at hlookup
      cases hlookup
      exact ⟨gameData, Function.update_self _ _ _, hkey.symm⟩
    · rw [AList.lookup_insert_ne hkey] at hlookup
      rcases h.ofIdx hlookup with ⟨found, hfound, hsame⟩
      have hg : g' ≠ g := by
        intro heq
        rw [heq, hfree] at hfound
        cases hfound
      exact ⟨found, (Function.update_of_ne hg _ _).trans hfound, hsame⟩
  · intro g' found hfound
    rcases update_eq_some hfound with ⟨heq, hnew⟩ | ⟨-, hold⟩
    · cases hnew
      rw [heq]
      exact AList.lookup_insert _
    · have hlookup := h.toIdx hold
      have hkey : found.info.serverIdx ≠ gameData.info.serverIdx := by
        intro heq
        rw [heq, hindex] at hlookup
        cases hlookup
      rw [AList.lookup_insert_ne hkey]
      exact hlookup

theorem ServerIndex.erase {servers : AList fun _ : UInt16 => Addr}
    (h : ServerIndex gameDatas servers) {g : Addr} {gameData : GameData}
    (hold : gameDatas g = some gameData) :
    ServerIndex (Function.update gameDatas g none)
      (servers.erase gameData.info.serverIdx) := by
  constructor
  · intro idx g' hlookup
    have hkey : idx ≠ gameData.info.serverIdx := by
      intro heq
      rw [heq, AList.lookup_erase] at hlookup
      cases hlookup
    rw [AList.lookup_erase_ne hkey] at hlookup
    rcases h.ofIdx hlookup with ⟨found, hfound, hsame⟩
    have hg : g' ≠ g := by
      intro heq
      rw [heq, hold] at hfound
      cases hfound
      exact hkey hsame.symm
    exact ⟨found, (Function.update_of_ne hg _ _).trans hfound, hsame⟩
  · intro g' found hfound
    rcases update_eq_some hfound with ⟨-, hnone⟩ | ⟨hne, hlive⟩
    · cases hnone
    · have hlookup := h.toIdx hlive
      have hkey : found.info.serverIdx ≠ gameData.info.serverIdx := by
        intro heq
        rw [heq, h.toIdx hold] at hlookup
        cases hlookup
        exact hne rfl
      rw [AList.lookup_erase_ne hkey]
      exact hlookup

theorem Bound.updateServer {clientDatas : Addr -> Option ClientData}
    (h : Bound clientDatas gameDatas) (g : Addr) (gameData : GameData) :
    Bound clientDatas (Function.update gameDatas g (some gameData)) := by
  constructor
  intro p clientData g' hp hserver
  by_cases hg : g' = g
  · exact ⟨gameData, hg ▸ Function.update_self _ _ _⟩
  · rcases h.server hp hserver with ⟨found, hfound⟩
    exact ⟨found, (Function.update_of_ne hg _ _).trans hfound⟩

end Groups

namespace AuthState

theorem consistent_updateGameSession {s : AuthState} (h : Consistent s)
    {x : Addr} {new : Option GameServerSession}
    (hsame : new.bind GameServerSession.gameData =
      (s.gameSessions x).bind GameServerSession.gameData) :
    Consistent { s with
      gameSessions := Function.update s.gameSessions x new } := by
  constructor
  · exact h.clients
  · exact h.lobby
  · exact h.bound
  · exact h.servers
  · exact h.paired.updateSession hsame

theorem consistent_gameConnected {s s' : AuthState} (h : Consistent s)
    {x : Addr} (hstep : s.gameConnected x = some s') : Consistent s' := by
  unfold gameConnected at hstep
  split at hstep
  · rename_i hfree
    cases hstep
    apply consistent_updateGameSession h
    rw [hfree]
    rfl
  · cases hstep

/-!
## Logging in
-/

def addServer (s : AuthState) (g : Addr) (gameData : GameData) : AuthState :=
  { s with
    gameDatas := Function.update s.gameDatas g (some gameData)
    servers := s.servers.insert gameData.info.serverIdx g }

def openServer (s : AuthState) (x g : Addr) (session : GameServerSession)
    (gameData : GameData) : AuthState :=
  (s.addServer g gameData).setGameSession x
    { session with gameData := some g }

/-- A server without the session that held it, if one did. -/
def release (s : AuthState) (g : Addr) (gameData : GameData) : AuthState :=
  match gameData.gameServerSession with
  | none => s
  | some y =>
      { s with
        gameDatas := Function.update s.gameDatas g
          (some { gameData with gameServerSession := none })
        gameSessions := Function.update s.gameSessions y
          ((s.gameSessions y).map fun session =>
            { session with gameData := none }) }

/-- A server that another session takes over has to be synchronized. -/
def takeOver (s : AuthState) (x g : Addr) (session : GameServerSession)
    (gameData : GameData) : AuthState :=
  (s.release g gameData).attach x g session { gameData with ready := false }

theorem openServer_gameSessions (s : AuthState) (x g : Addr)
    (session : GameServerSession) (gameData : GameData) :
    (s.openServer x g session gameData).gameSessions x =
      some { session with gameData := some g } :=
  Function.update_self _ _ _

theorem takeOver_gameSessions (s : AuthState) (x g : Addr)
    (session : GameServerSession) (gameData : GameData) :
    (s.takeOver x g session gameData).gameSessions x =
      some { session with gameData := some g } :=
  Function.update_self _ _ _

inductive LoginCase (s : AuthState) (x : Addr) (kind : LoginKind)
    (packet : ServerLogin) (newGameData : Addr) :
    AuthState -> Prop where
  | refused : LoginCase s x kind packet newGameData s
  | opened {session : GameServerSession}
      (hx : s.gameSessions x = some session)
      (hnone : session.gameData = none)
      (hfree : s.gameDatas newGameData = none)
      (hindex : s.servers.lookup packet.serverIdx = none) :
      LoginCase s x kind packet newGameData
        (s.openServer x newGameData session
          { GameData.create x packet.info kind.guid with
            ready := !kind.useAutoReconnectFeature })
  | takenOver {session : GameServerSession} {g : Addr}
      {gameData : GameData} (hx : s.gameSessions x = some session)
      (hnone : session.gameData = none)
      (hg : s.gameDatas g = some gameData) :
      LoginCase s x kind packet newGameData
        (s.takeOver x g session gameData)

/-- The session remembers whether its server may reconnect. -/
def noteKind (s : AuthState) (x : Addr) (session : GameServerSession)
    (kind : LoginKind) : AuthState :=
  s.setGameSession x
    { session with useAutoReconnectFeature := kind.useAutoReconnectFeature }

theorem loginNewServer_eq {s : AuthState} {x g : Addr}
    {session : GameServerSession} {gameData : GameData} (kind : LoginKind)
    (hx : s.gameSessions x = some session) (hnone : session.gameData = none)
    (hg : s.gameDatas g = some gameData)
    (hback : gameData.gameServerSession = some x) :
    s.loginNewServer x g kind =
      some ((s.setGameSession x { session with gameData := some g }).setGameData
        g { gameData with ready := !kind.useAutoReconnectFeature },
        [Output.loginResult x ResultCode.success]) := by
  rw [loginNewServer, setGameDataOf_new hx hnone hg hback,
    Option.bind_eq_bind, Option.bind_some, setReady, setGameSession]
  simp only [hg, Option.bind_eq_bind, Option.bind_some]
  rfl

theorem loginOldServer_eq {s : AuthState} (h : Consistent s) {x g : Addr}
    {session : GameServerSession} {gameData : GameData}
    (hx : s.gameSessions x = some session) (hnone : session.gameData = none)
    (hg : s.gameDatas g = some gameData) (gameServer : Option Addr) :
    s.loginOldServer x g gameServer =
      some (s.takeOver x g session gameData,
        gameServer.toList.map Output.closeSession ++
          [Output.loginResult x ResultCode.success]) := by
  cases hback : gameData.gameServerSession with
  | none =>
      rw [loginOldServer, setGameDataOf_vacant hx hnone hg hback,
        Option.bind_eq_bind, Option.bind_some, setReady]
      simp only [attach, setGameData, setGameSession, Function.update_self,
        Option.bind_eq_bind, Option.bind_some, Function.update_idem,
        takeOver, release, hback]
      rfl
  | some y =>
      rcases h.paired.session hg hback with ⟨other, hy, hother⟩
      rw [loginOldServer,
        setGameDataOf_takeover hx hnone hg hback hy hother,
        Option.bind_eq_bind, Option.bind_some, setReady]
      simp only [attach, setGameData, setGameSession, Function.update_self,
        Option.bind_eq_bind, Option.bind_some, Function.update_idem,
        takeOver, release, hback, hy, Option.map_some]
      rfl

theorem tryAddServer_cases {s : AuthState} {x g : Addr} {info : ServerInfo}
    {guid : Option (Vector UInt8 16)} {result : AuthState × AddServerResult}
    (hstep : s.tryAddServer g x info guid = some result) :
    (exists old, result = (s, AddServerResult.exists old)) ∨
      (s.servers.lookup info.serverIdx = none ∧ s.gameDatas g = none ∧
        result = (s.addServer g (GameData.create x info guid),
          AddServerResult.added)) := by
  unfold tryAddServer at hstep
  split at hstep
  · rename_i old _
    cases hstep
    exact Or.inl ⟨old, rfl⟩
  · rename_i hindex
    split at hstep
    · rename_i hfree
      cases hstep
      exact Or.inr ⟨hindex, hfree, rfl⟩
    · cases hstep

/-- What a login does, which succeeds unless it changes nothing. -/
theorem loginServer_cases {s s' : AuthState} (h : Consistent s)
    {x newGameData : Addr} {session : GameServerSession} {kind : LoginKind}
    {packet : ServerLogin} {outputs : List Output}
    (hx : s.gameSessions x = some session) (hnone : session.gameData = none)
    (hstep : s.loginServer x kind packet newGameData =
      some (s', outputs)) :
    LoginCase s x kind packet newGameData s' ∧
      (s' = s ∨ exists closed : List Addr,
        outputs = closed.map Output.closeSession ++
          [Output.loginResult x ResultCode.success]) := by
  rcases Option.bind_eq_some_iff.mp hstep with ⟨result, hadd, hrest⟩
  rcases tryAddServer_cases hadd with ⟨oldGameData, heq⟩ |
    ⟨hindex, hfree, heq⟩
  · subst heq
    rcases Option.bind_eq_some_iff.mp hrest with ⟨old, hold, hrest⟩
    split at hrest
    · rw [loginOldServer_eq h hx hnone hold] at hrest
      cases hrest
      exact ⟨LoginCase.takenOver hx hnone hold, Or.inr ⟨_, rfl⟩⟩
    · cases hrest
      exact ⟨LoginCase.refused, Or.inl rfl⟩
  · subst heq
    have hadded : (s.addServer newGameData
        (GameData.create x packet.info kind.guid)).gameDatas newGameData =
          some (GameData.create x packet.info kind.guid) :=
      Function.update_self _ _ _
    have heq := loginNewServer_eq (s := s.addServer newGameData
      (GameData.create x packet.info kind.guid)) kind hx hnone hadded rfl
    change loginNewServer _ x newGameData kind = _ at hrest
    rw [heq] at hrest
    cases hrest
    have hcase : LoginCase s x kind packet newGameData _ :=
      LoginCase.opened hx hnone hfree hindex
    refine ⟨?_, Or.inr ⟨[], rfl⟩⟩
    simpa only [setGameData, setGameSession, openServer, addServer,
      Function.update_idem] using hcase

theorem consistent_openServer {s : AuthState} (h : Consistent s)
    {x g : Addr} {session : GameServerSession} {gameData : GameData}
    (hx : s.gameSessions x = some session) (hnone : session.gameData = none)
    (hfree : s.gameDatas g = none)
    (hindex : s.servers.lookup gameData.info.serverIdx = none)
    (hback : gameData.gameServerSession = some x) :
    Consistent (s.openServer x g session gameData) := by
  constructor
  · exact h.clients
  · exact h.lobby
  · exact h.bound.updateServer g gameData
  · exact h.servers.insert hfree hindex
  · apply h.paired.join
    · rw [hx]
      exact hnone
    · rw [hfree]
      rfl
    · exact hback
    · rfl

theorem consistent_release {s : AuthState} (h : Consistent s) {g : Addr}
    {gameData : GameData} (hg : s.gameDatas g = some gameData) :
    Consistent (s.release g gameData) := by
  rw [release]
  split
  · exact h
  · rename_i y hback
    rcases h.paired.session hg hback with ⟨session, hy, hpair⟩
    constructor
    · exact h.clients
    · exact h.lobby
    · exact h.bound.updateServer g _
    · exact h.servers.update hg rfl
    · apply h.paired.part hy hpair
      · rfl
      · rw [hy]
        rfl

theorem release_gameDatas {s : AuthState} {g : Addr} {gameData : GameData}
    (hg : s.gameDatas g = some gameData) :
    (s.release g gameData).gameDatas g =
      some { gameData with gameServerSession := none } := by
  rw [release]
  split
  · rename_i hback
    rw [hg, ← hback]
  · exact Function.update_self _ _ _

theorem release_gameSessions {s : AuthState} (h : Consistent s)
    {x g : Addr} {session : GameServerSession} {gameData : GameData}
    (hg : s.gameDatas g = some gameData)
    (hx : s.gameSessions x = some session)
    (hnone : session.gameData ≠ some g) :
    (s.release g gameData).gameSessions x = some session := by
  rw [release]
  split
  · exact hx
  · rename_i y hback
    rcases h.paired.session hg hback with ⟨other, hy, hpair⟩
    have hxy : x ≠ y := by
      intro heq
      subst heq
      rw [hx] at hy
      cases hy
      exact hnone hpair
    exact (Function.update_of_ne hxy _ _).trans hx

theorem consistent_takeOver {s : AuthState} (h : Consistent s) {x g : Addr}
    {session : GameServerSession} {gameData : GameData}
    (hx : s.gameSessions x = some session) (hnone : session.gameData = none)
    (hg : s.gameDatas g = some gameData) :
    Consistent (s.takeOver x g session gameData) := by
  have hreleased := consistent_release h hg
  have hdata := release_gameDatas hg
  have hsession := release_gameSessions h hg hx (hnone ▸ nofun)
  constructor
  · exact hreleased.clients
  · exact hreleased.lobby
  · exact hreleased.bound.updateServer g _
  · exact hreleased.servers.update hdata rfl
  · apply hreleased.paired.join
    · rw [hsession]
      exact hnone
    · rw [hdata]
      rfl
    · rfl
    · rfl

theorem LoginCase.consistent {s s' : AuthState} (h : Consistent s)
    {x newGameData : Addr} {kind : LoginKind} {packet : ServerLogin}
    (hcase : LoginCase s x kind packet newGameData s') :
    Consistent s' := by
  cases hcase with
  | refused => exact h
  | opened hx hnone hfree hindex =>
      exact consistent_openServer h hx hnone hfree hindex rfl
  | takenOver hx hnone hg => exact consistent_takeOver h hx hnone hg

theorem LoginCase.clients {s s' : AuthState} {x newGameData : Addr}
    {kind : LoginKind} {packet : ServerLogin}
    (hcase : LoginCase s x kind packet newGameData s') :
    s'.clientDatas = s.clientDatas ∧
      s'.clientSessions = s.clientSessions := by
  cases hcase with
  | refused => exact ⟨rfl, rfl⟩
  | opened hx hnone hfree hindex => exact ⟨rfl, rfl⟩
  | takenOver hx hnone hg =>
      rw [takeOver, attach, setGameData, setGameSession, release]
      split
      · exact ⟨rfl, rfl⟩
      · exact ⟨rfl, rfl⟩

theorem consistent_noteKind {s : AuthState} (h : Consistent s) {x : Addr}
    {session : GameServerSession} (kind : LoginKind)
    (hx : s.gameSessions x = some session) :
    Consistent (s.noteKind x session kind) := by
  apply consistent_updateGameSession h
  rw [hx]
  rfl

theorem onServerLogin_cases {s s' : AuthState} (h : Consistent s)
    {x newGameData : Addr} {kind : LoginKind} {packet : ServerLogin}
    {outputs : List Output}
    (hstep : s.onServerLogin x kind packet newGameData =
      some (s', outputs)) :
    exists session, s.gameSessions x = some session ∧
      LoginCase (s.noteKind x session kind) x kind packet newGameData s' := by
  rcases Option.bind_eq_some_iff.mp hstep with ⟨session, hx, hrest⟩
  refine ⟨session, hx, ?_⟩
  split at hrest
  · cases hrest
    exact LoginCase.refused
  · rename_i hnone
    exact (loginServer_cases (consistent_noteKind h kind hx)
      (Function.update_self _ _ _) hnone hrest).left

theorem consistent_onServerLogin {s s' : AuthState} (h : Consistent s)
    {x newGameData : Addr} {kind : LoginKind} {packet : ServerLogin}
    {outputs : List Output}
    (hstep : s.onServerLogin x kind packet newGameData =
      some (s', outputs)) :
    Consistent s' := by
  rcases onServerLogin_cases h hstep with ⟨session, hx, hcase⟩
  exact hcase.consistent (consistent_noteKind h kind hx)

/-!
## Going away
-/

theorem removeBoundClients_servers (g : Addr)
    (entries : List (Sigma fun _ : UInt32 => Addr)) (s : AuthState)
    (servers : AList fun _ : UInt16 => Addr) :
    removeBoundClients g entries { s with servers := servers } =
      (removeBoundClients g entries s).map fun s' =>
        { s' with servers := servers } := by
  induction entries generalizing s with
  | nil => rfl
  | cons entry rest ih =>
      have hone : removeBoundClient g { s with servers := servers }
          entry.1 entry.2 =
            (removeBoundClient g s entry.1 entry.2).map fun s' =>
              { s' with servers := servers } := by
        simp only [removeBoundClient, deleteClientData, destroyClientData,
          Option.bind_eq_bind]
        cases s.clientDatas entry.2 with
        | none => rfl
        | some clientData =>
            simp only [Option.bind_some]
            split
            · cases clientData.server with
              | none => rfl
              | some g' =>
                  cases clientData.inGame with
                  | false => rfl
                  | true =>
                      simp only [if_pos]
                      cases s.gameDatas g' with
                      | none => rfl
                      | some gameData => rfl
            · rfl
      rw [removeBoundClients, removeBoundClients, hone]
      cases removeBoundClient g s entry.1 entry.2 with
      | none => rfl
      | some next => exact ih next

/-- A server without its clients, its game data and their session. -/
def closeServer (s : AuthState) (g : Addr) (gameData : GameData) :
    AuthState :=
  { s with
    gameDatas := Function.update s.gameDatas g none
    servers := s.servers.erase gameData.info.serverIdx }

theorem removeGameData_cases {s s' : AuthState} (h : Consistent s)
    {g : Addr} (hstep : s.removeGameData g = some s') :
    exists gameData cleared, s.gameDatas g = some gameData ∧
      Forgets g s cleared ∧
        (forall p clientData, cleared.clientDatas p = some clientData ->
          clientData.server ≠ some g) ∧
            s' = cleared.closeServer g gameData := by
  rcases Option.bind_eq_some_iff.mp hstep with ⟨gameData, hg, hrest⟩
  rcases Option.bind_eq_some_iff.mp hrest with ⟨removed, hremove, hpair⟩
  cases hpair
  rw [removeServer, removeBoundClients_servers] at hremove
  rcases Option.map_eq_some_iff.mp hremove with ⟨cleared, hclear, heq⟩
  subst heq
  rcases removeServer_cases h.indexed hclear with ⟨hforgets, hgone⟩
  refine ⟨gameData, cleared, hg, hforgets, hgone, ?_⟩
  rw [closeServer, hforgets.servers]

theorem consistent_closeServer {s cleared : AuthState} (h : Consistent s)
    {x g : Addr} {session : GameServerSession} {gameData : GameData}
    {new : Option GameServerSession} (hx : s.gameSessions x = some session)
    (hback : session.gameData = some g)
    (hg : s.gameDatas g = some gameData) (hforgets : Forgets g s cleared)
    (hgone : forall p clientData,
      cleared.clientDatas p = some clientData ->
        clientData.server ≠ some g)
    (hnew : new.bind GameServerSession.gameData = none) :
    Consistent { cleared.closeServer g gameData with
      gameSessions := Function.update cleared.gameSessions x new } := by
  have hcleared := hforgets.consistent h
  rcases hforgets.sameServers.exists_some hg with
    ⟨gameData', hg', hinfo, -⟩
  constructor
  · exact hcleared.clients
  · exact hcleared.lobby
  · constructor
    intro p clientData g' hp hserver
    have hne : g' ≠ g := by
      intro heq
      exact hgone p clientData hp (heq ▸ hserver)
    rcases hcleared.bound.server hp hserver with ⟨found, hfound⟩
    exact ⟨found, (Function.update_of_ne hne _ _).trans hfound⟩
  · have hindex := hcleared.servers.erase hg'
    rw [hinfo] at hindex
    exact hindex
  · exact hcleared.paired.part
      ((congrFun hforgets.gameSessions x).trans hx) hback rfl hnew

inductive LogoutCase (s : AuthState) (x : Addr) : AuthState -> Prop where
  | ignored : LogoutCase s x s
  | closed {cleared : AuthState} {session : GameServerSession} {g : Addr}
      {gameData : GameData} (hx : s.gameSessions x = some session)
      (hback : session.gameData = some g)
      (hg : s.gameDatas g = some gameData)
      (hforgets : Forgets g s cleared)
      (hgone : forall p clientData,
        cleared.clientDatas p = some clientData ->
          clientData.server ≠ some g) :
      LogoutCase s x
        ((cleared.closeServer g gameData).setGameSession x
          { session with gameData := none })

theorem onServerLogout_cases {s s' : AuthState} (h : Consistent s)
    {x : Addr} {outputs : List Output}
    (hstep : s.onServerLogout x = some (s', outputs)) :
    LogoutCase s x s' := by
  rcases Option.bind_eq_some_iff.mp hstep with ⟨session, hx, hrest⟩
  split at hrest
  · cases hrest
    exact LogoutCase.ignored
  · rename_i g hback
    rcases Option.bind_eq_some_iff.mp hrest with ⟨removed, hremove, hpair⟩
    cases hpair
    rcases removeGameData_cases h hremove with
      ⟨gameData, cleared, hg, hforgets, hgone, heq⟩
    subst heq
    exact LogoutCase.closed hx hback hg hforgets hgone

theorem consistent_onServerLogout {s s' : AuthState} (h : Consistent s)
    {x : Addr} {outputs : List Output}
    (hstep : s.onServerLogout x = some (s', outputs)) : Consistent s' := by
  cases onServerLogout_cases h hstep with
  | ignored => exact h
  | closed hx hback hg hforgets hgone =>
      exact consistent_closeServer h hx hback hg hforgets hgone rfl

/-- What the end of a game server session does. -/
inductive EndCase (s : AuthState) (x : Addr) : AuthState -> Prop where
  | idle {session : GameServerSession}
      (hx : s.gameSessions x = some session)
      (hnone : session.gameData = none) :
      EndCase s x { s with
        gameSessions := Function.update s.gameSessions x none }
  | left {session : GameServerSession} {g : Addr} {gameData : GameData}
      (hx : s.gameSessions x = some session)
      (hback : session.gameData = some g)
      (hg : s.gameDatas g = some gameData) :
      EndCase s x { s with
        gameDatas := Function.update s.gameDatas g
          (some { gameData with gameServerSession := none })
        gameSessions := Function.update s.gameSessions x none }
  | closed {cleared : AuthState} {session : GameServerSession} {g : Addr}
      {gameData : GameData} (hx : s.gameSessions x = some session)
      (hback : session.gameData = some g)
      (hg : s.gameDatas g = some gameData)
      (hforgets : Forgets g s cleared)
      (hgone : forall p clientData,
        cleared.clientDatas p = some clientData ->
          clientData.server ≠ some g) :
      EndCase s x { cleared.closeServer g gameData with
        gameSessions := Function.update cleared.gameSessions x none }

theorem deleteGameSession_cases {s s' : AuthState} (h : Consistent s)
    {x : Addr} (hstep : s.deleteGameSession x = some s') :
    EndCase s x s' := by
  rcases Option.bind_eq_some_iff.mp hstep with ⟨session, hx, hrest⟩
  rcases Option.bind_eq_some_iff.mp hrest with ⟨next, hleave, hpair⟩
  cases hpair
  unfold leaveServer at hleave
  split at hleave
  · rename_i hnone
    cases hleave
    exact EndCase.idle hx hnone
  · rename_i g hback
    rcases h.paired.gameData hx hback with ⟨gameData, hg, hfront⟩
    simp only [hg, Option.bind_eq_bind, Option.bind_some, hfront, if_pos]
      at hleave
    split at hleave
    · rw [setGameDataOf_none hx hback hg hfront] at hleave
      cases hleave
      have hcase := EndCase.left hx hback hg
      simpa only [setGameData, setGameSession, Function.update_idem]
        using hcase
    · rcases removeGameData_cases h hleave with
        ⟨found, cleared, hfound, hforgets, hgone, heq⟩
      subst heq
      exact EndCase.closed hx hback hfound hforgets hgone

theorem consistent_deleteGameSession {s s' : AuthState} (h : Consistent s)
    {x : Addr} (hstep : s.deleteGameSession x = some s') :
    Consistent s' := by
  cases deleteGameSession_cases h hstep with
  | idle hx hnone =>
      apply consistent_updateGameSession h
      rw [hx]
      exact hnone.symm
  | left hx hback hg =>
      constructor
      · exact h.clients
      · exact h.lobby
      · exact h.bound.updateServer _ _
      · exact h.servers.update hg rfl
      · exact h.paired.part hx hback rfl rfl
  | closed hx hback hg hforgets hgone =>
      exact consistent_closeServer h hx hback hg hforgets hgone rfl

end AuthState

end Auth
end Rzu
