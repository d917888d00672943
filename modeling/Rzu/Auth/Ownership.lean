import Rzu.Auth.PlayerEvents

/-!
# Ownership of client data

A client session that points at client data owns it: the data is registered,
and says so itself.  The events keep this, except for notices of game servers
about clients that are still in the lobby.
-/

namespace Rzu
namespace Auth

open Library

/-- Every session that points at client data is the session of that data. -/
def Owned (s : AuthState) : Prop :=
  forall c session p, s.clientSessions c = some session ->
    session.clientData = some p ->
      exists clientData, s.clientDatas p = some clientData ∧
        s.connectedClients.lookup clientData.accountId = some p ∧
          clientData.client = some c

namespace AuthState

def namesLobbyClient (s : AuthState) (x : Addr)
    (account : Vector UInt8 61) : Bool :=
  match (s.gameSessions x).bind GameServerSession.gameData,
      (s.getClient (packetAccount account)).bind s.clientDatas with
  | some _, some clientData => clientData.client.isSome
  | _, _ => false

/-- Whether an event is a notice that takes a client from its session. -/
def disownedBy (s : AuthState) : Event -> Bool
  | Event.clientLogout x account => s.namesLobbyClient x account
  | Event.clientKickFailed x account => s.namesLobbyClient x account
  | _ => false

def selection (s : AuthState) (c : Addr) (serverIdx : UInt16) :
    Option (ClientData × Addr) := do
  let session <- s.clientSessions c
  let p <- session.clientData
  let clientData <- s.clientDatas p
  let g <- s.servers.lookup serverIdx
  pure (clientData, g)

/-- Whether a session hands over client data that is not its own. -/
def selectsForeignClient (s : AuthState) : Event -> Bool
  | Event.selectServer c serverIdx _ =>
      match s.selection c serverIdx with
      | some (clientData, _) => clientData.client ≠ some c
      | none => false
  | _ => false

end AuthState

theorem owned_initial : Owned AuthState.initial := by
  intro c session p hc
  cases hc

theorem Owned.frame {s s' : AuthState} (howned : Owned s)
    (h' : Consistent s') (hsessions : s'.clientSessions = s.clientSessions)
    (hkept : forall p clientData c, s.clientDatas p = some clientData ->
      clientData.client = some c -> s'.clientDatas p = some clientData) :
    Owned s' := by
  intro c session p hc hpointer
  rw [hsessions] at hc
  rcases howned c session p hc hpointer with ⟨clientData, hp, -, hclient⟩
  have hp' := hkept p clientData c hp hclient
  exact ⟨clientData, hp', h'.clients.toId hp', hclient⟩

namespace AuthState

variable {s s' : AuthState}

theorem Forgets.lobby {g : Addr} (h : Consistent s)
    (hforgets : Forgets g s s') {p c : Addr} {clientData : ClientData}
    (hp : s.clientDatas p = some clientData)
    (hclient : clientData.client = some c) :
    s'.clientDatas p = some clientData := by
  apply hforgets.clientDatas_of_ne hp
  intro hserver
  rw [h.lobby.none_of_server hp hserver] at hclient
  cases hclient

theorem EvictCase.owned (h : Consistent s) (howned : Owned s) {p : Addr}
    {old : ClientData} (hp : s.clientDatas p = some old)
    (hcase : EvictCase s p old s') : Owned s' := by
  have hlobby : forall {q c g clientData},
      s.clientDatas q = some clientData -> clientData.client = some c ->
        old.server = some g -> q ≠ p := by
    intro q c g clientData hq hclient hserver heq
    subst heq
    rw [hp] at hq
    cases hq
    rw [h.lobby.none_of_server hp hserver] at hclient
    cases hclient
  cases hcase with
  | kept => exact howned
  | removed hserver =>
      apply howned.frame (consistent_forget h hp) rfl
      intro q clientData c hq hclient
      exact (Function.update_of_ne (hlobby hq hclient hserver) _ _).trans hq
  | kickRequested hserver hgame =>
      apply howned.frame (consistent_requestKick h hp) rfl
      intro q clientData c hq hclient
      exact (Function.update_of_ne (hlobby hq hclient hserver) _ _).trans hq

theorem owned_authenticate (h : Consistent s) (howned : Owned s)
    {c p : Addr} {session new : ClientSession} {data : AccountData}
    (hc : s.clientSessions c = some session)
    (hnone : session.clientData = none) (hvacant : Vacant s p data)
    (hpointer : new.clientData = some p) :
    Owned (s.authenticate c p (newClientData (some c) data) new) := by
  have h' := consistent_authenticate h hc hnone hvacant hpointer
  intro c' session' q hc' hpointer'
  rcases update_eq_some hc' with ⟨heq, hnew⟩ | ⟨-, hold⟩
  · cases hnew
    rw [hpointer] at hpointer'
    cases hpointer'
    have hp' : (s.authenticate c p (newClientData (some c) data)
        new).clientDatas p = some (newClientData (some c) data) :=
      Function.update_self _ _ _
    exact ⟨_, hp', h'.clients.toId hp', heq ▸ rfl⟩
  · rcases howned c' session' q hold hpointer' with
      ⟨clientData, hq, -, hclient⟩
    have hne : q ≠ p := by
      intro heq
      rw [heq, hvacant.free] at hq
      cases hq
    have hq' : (s.authenticate c p (newClientData (some c) data)
        new).clientDatas q = some clientData :=
      (Function.update_of_ne hne _ _).trans hq
    exact ⟨clientData, hq', h'.clients.toId hq', hclient⟩

theorem owned_handOver (h : Consistent s) (howned : Owned s)
    {c p g : Addr} {session : ClientSession} {clientData : ClientData}
    {serverIdx : UInt16} (oneTimePassword : UInt64)
    (hc : s.clientSessions c = some session)
    (hpointer : session.clientData = some p)
    (hp : s.clientDatas p = some clientData)
    (hg : s.servers.lookup serverIdx = some g) :
    Owned (s.handOver c p g session clientData oneTimePassword) := by
  have h' := consistent_handOver h oneTimePassword hc hpointer hp hg
  intro c' session' q hc' hpointer'
  rcases update_eq_some hc' with ⟨-, hnew⟩ | ⟨hne, hold⟩
  · cases hnew
    cases hpointer'
  · rcases howned c' session' q hold hpointer' with
      ⟨found, hq, -, hclient⟩
    -- two sessions cannot own the same client data
    have hqp : q ≠ p := by
      intro heq
      subst heq
      rcases howned c session q hc hpointer with ⟨found', hq', -, hclient'⟩
      rw [hq] at hq'
      cases hq'
      rw [hclient] at hclient'
      cases hclient'
      exact hne rfl
    have hq' : (s.handOver c p g session clientData
        oneTimePassword).clientDatas q = some found :=
      (Function.update_of_ne hqp _ _).trans hq
    exact ⟨found, hq', h'.clients.toId hq', hclient⟩

/-- A session that leaves takes its own client data along, no other. -/
theorem LeaveCase.owned (h : Consistent s) (howned : Owned s) {c : Addr}
    {session : ClientSession} {removed : AuthState}
    (hc : s.clientSessions c = some session)
    (hcase : LeaveCase s session removed) {new : Option ClientSession}
    (hnew : new.bind ClientSession.clientData = none) :
    Owned { removed with
      clientSessions := Function.update removed.clientSessions c new } := by
  have h' := hcase.consistent h
  intro c' session' q hc' hpointer'
  rcases update_eq_some hc' with ⟨-, heq⟩ | ⟨hne, hold⟩
  · rw [heq, Option.bind_some, hpointer'] at hnew
    cases hnew
  · rw [hcase.clientSessions] at hold
    rcases howned c' session' q hold hpointer' with
      ⟨found, hq, -, hclient⟩
    have hq' : removed.clientDatas q = some found := by
      cases hcase with
      | idle hnone => exact hq
      | owner hpointer hp =>
          rename_i p clientData
          have hqp : q ≠ p := by
            intro heq
            subst heq
            rcases howned c session q hc hpointer with
              ⟨found', hfound, -, hclient'⟩
            rw [hq] at hfound
            cases hfound
            rw [hclient] at hclient'
            cases hclient'
            exact hne rfl
          exact (Function.update_of_ne hqp _ _).trans hq
    exact ⟨found, hq', h'.clients.toId hq', hclient⟩

theorem NoticeCase.owned (h : Consistent s) (howned : Owned s) {x : Addr}
    {account : Vector UInt8 61}
    (hquiet : s.namesLobbyClient x account = false)
    (hcase : NoticeCase s x account s') : Owned s' := by
  cases hcase with
  | ignored => exact howned
  | removed hx hback hname hp =>
      rename_i session g p clientData
      have hbound : clientData.client = none := by
        rw [namesLobbyClient, hx, Option.bind_some, hback, hname,
          Option.bind_some, hp] at hquiet
        exact Option.not_isSome_iff_eq_none.mp (Bool.eq_false_iff.mp hquiet)
      apply howned.frame (consistent_forget h hp) rfl
      intro q found c hq hclient
      have hne : q ≠ p := by
        intro heq
        subst heq
        rw [hp] at hq
        cases hq
        rw [hbound] at hclient
        cases hclient
      exact (Function.update_of_ne hne _ _).trans hq

theorem Forgets.owned {g : Addr} {cleared : AuthState}
    (hforgets : Forgets g s cleared) (h : Consistent s) (howned : Owned s)
    (h' : Consistent s') (hclients : s'.clientDatas = cleared.clientDatas)
    (hsessions : s'.clientSessions = cleared.clientSessions) :
    Owned s' := by
  apply howned.frame h' (hsessions.trans hforgets.clientSessions)
  intro p clientData c hp hclient
  rw [hclients]
  exact hforgets.lobby h hp hclient

theorem AccountListCase.owned (h : Consistent s) (howned : Owned s)
    {x : Addr} {packet : AccountList} {newClients : List Addr}
    {outputs : List Output} (h' : Consistent s')
    (hcase : AccountListCase s x packet newClients s' outputs) :
    Owned s' := by
  cases hcase with
  | ignored hignored => exact howned
  | collected hx hback hsize hfinal =>
      exact howned.frame h' rfl fun _ _ _ hp _ => hp
  | synchronized hx hback hsize hfinal hforgets hgone hadds hg =>
      apply howned.frame h'
        (hadds.clientSessions.trans hforgets.clientSessions)
      intro p clientData c hp hclient
      exact hadds.clientDatas
        (hforgets.lobby (consistent_collect h packet hx) hp hclient)

theorem LogoutCase.owned (h : Consistent s) (howned : Owned s)
    {x : Addr} (h' : Consistent s') (hcase : LogoutCase s x s') :
    Owned s' := by
  cases hcase with
  | ignored => exact howned
  | closed hx hback hg hforgets hgone =>
      exact hforgets.owned h howned h' rfl rfl

theorem EndCase.owned (h : Consistent s) (howned : Owned s) {x : Addr}
    (h' : Consistent s') (hcase : EndCase s x s') : Owned s' := by
  cases hcase with
  | idle hx hnone => exact howned.frame h' rfl fun _ _ _ hp _ => hp
  | left hx hback hg => exact howned.frame h' rfl fun _ _ _ hp _ => hp
  | closed hx hback hg hforgets hgone =>
      exact hforgets.owned h howned h' rfl rfl

theorem ClientLoginCase.owned (h : Consistent s) (howned : Owned s)
    {x : Addr} {packet : ClientLogin} {now : Int64}
    {outputs : List Output} (h' : Consistent s')
    (hcase : ClientLoginCase s x packet now s' outputs) : Owned s' := by
  cases hcase with
  | refused hresult => exact howned
  | entered hx hback hname hp hg henter hresult =>
      rename_i p clientData gameData message
      apply howned.frame h' rfl
      intro q found c hq hclient
      have hne : q ≠ p := by
        intro heq
        subst heq
        rw [hp] at hq
        cases hq
        rw [h.lobby.none_of_server hp henter.server] at hclient
        cases hclient
      exact (Function.update_of_ne hne _ _).trans hq

theorem owned_clientConnected (howned : Owned s) (h' : Consistent s')
    {c : Addr} (hstep : s.clientConnected c = some s') : Owned s' := by
  unfold clientConnected at hstep
  split at hstep
  · cases hstep
    intro c' session p hc' hpointer
    rcases update_eq_some hc' with ⟨-, hnew⟩ | ⟨-, hold⟩
    · cases hnew
      cases hpointer
    · rcases howned c' session p hold hpointer with ⟨clientData, hp⟩
      exact ⟨clientData, hp⟩
  · cases hstep

theorem owned_gameConnected (howned : Owned s) (h' : Consistent s')
    {x : Addr} (hstep : s.gameConnected x = some s') : Owned s' := by
  unfold gameConnected at hstep
  split at hstep
  · cases hstep
    exact howned.frame h' rfl fun _ _ _ hp _ => hp
  · cases hstep

theorem owned_handle (h : Consistent s) (howned : Owned s)
    {strictKick : Bool} {event : Event} {outputs : List Output}
    (hquiet : s.disownedBy event = false)
    (hstep : s.handle strictKick event = some (s', outputs)) :
    Owned s' := by
  have h' := consistent_handle h hstep
  cases event with
  | clientConnected c =>
      rcases Option.map_eq_some_iff.mp hstep with ⟨next, hnext, hpair⟩
      cases hpair
      exact owned_clientConnected howned h' hnext
  | accountAuthResult c query newClient =>
      cases clientAuthResult_cases h hstep with
      | refused hrefused => exact howned
      | authenticated hc hnone hvacant =>
          exact owned_authenticate h howned hc hnone hvacant rfl
      | conflict hq hsame hevict hrefused => exact hevict.owned h howned hq
  | selectServer c serverIdx oneTimePassword =>
      cases onSelectServer_cases hstep with
      | refused hnone => exact howned
      | handedOver hc hpointer hp hg =>
          exact owned_handOver h howned oneTimePassword hc hpointer hp hg
  | clientDisconnected c =>
      rcases Option.map_eq_some_iff.mp hstep with ⟨next, hnext, hpair⟩
      cases hpair
      rcases onDisconnected_cases h hnext with
        ⟨session, removed, hc, hcase, heq⟩
      subst heq
      exact hcase.owned h howned hc rfl
  | clientDestroyed c =>
      rcases Option.map_eq_some_iff.mp hstep with ⟨next, hnext, hpair⟩
      cases hpair
      rcases deleteClientSession_cases h hnext with
        ⟨session, removed, hc, hcase, heq⟩
      subst heq
      exact hcase.owned h howned hc rfl
  | gameConnected x =>
      rcases Option.map_eq_some_iff.mp hstep with ⟨next, hnext, hpair⟩
      cases hpair
      exact owned_gameConnected howned h' hnext
  | serverLogin x kind packet newGameData =>
      rcases onServerLogin_cases h hstep with ⟨session, hx, hcase⟩
      rcases hcase.clients with ⟨hclients, hsessions⟩
      apply howned.frame h' hsessions
      intro p clientData c hp _
      rw [hclients]
      exact hp
  | accountList x packet newClients =>
      exact (onAccountList_cases h hstep).owned h howned h'
  | serverLogout x => exact (onServerLogout_cases h hstep).owned h howned h'
  | clientLogin x packet now =>
      exact (onClientLogin_cases hstep).owned h howned h'
  | clientLogout x account =>
      exact (removeNamedClient_cases h hstep).owned h howned hquiet
  | clientKickFailed x account =>
      exact (removeNamedClient_cases h hstep).owned h howned hquiet
  | gameDisconnected x =>
      rcases Option.map_eq_some_iff.mp hstep with ⟨next, hnext, hpair⟩
      cases hpair
      exact (deleteGameSession_cases h hnext).owned h howned h'

theorem namesLobbyClient_eq_true {x : Addr} {account : Vector UInt8 61}
    (hnames : s.namesLobbyClient x account = true) :
    exists session g p clientData c, s.gameSessions x = some session ∧
      session.gameData = some g ∧
        s.getClient (packetAccount account) = some p ∧
          s.clientDatas p = some clientData ∧
            clientData.client = some c := by
  unfold namesLobbyClient at hnames
  split at hnames
  · rename_i g clientData hsession hclient
    rcases Option.bind_eq_some_iff.mp hsession with ⟨session, hx, hback⟩
    rcases Option.bind_eq_some_iff.mp hclient with ⟨p, hname, hp⟩
    rcases Option.isSome_iff_exists.mp hnames with ⟨c, hc⟩
    exact ⟨session, g, p, clientData, c, hx, hback, hname, hp, hc⟩
  · cases hnames

theorem not_owned_of_names (h : Consistent s) {x : Addr}
    {account : Vector UInt8 61} {outputs : List Output}
    (hnames : s.namesLobbyClient x account = true)
    (hstep : s.removeNamedClient x account = some (s', outputs)) :
    ¬Owned s' := by
  rcases namesLobbyClient_eq_true hnames with
    ⟨session, g, p, clientData, c, hx, hback, hname, hp, hc⟩
  have heq : s.removeNamedClient x account =
      some (s.forget p clientData, []) := by
    simp only [removeNamedClient, hx, hback, hname, Option.bind_eq_bind,
      Option.bind_some, removeClient_eq h.indexed hp, Option.map_some]
  rw [heq] at hstep
  cases hstep
  intro howned
  rcases h.lobby.owner hp hc with ⟨owner, howner, hpointer⟩
  rcases howned c owner p howner hpointer with ⟨found, hfound, -⟩
  exact (forget_clientDatas_eq_some hfound).left rfl

theorem not_owned_of_disowned (h : Consistent s) {strictKick : Bool}
    {event : Event} {outputs : List Output}
    (hnoisy : s.disownedBy event = true)
    (hstep : s.handle strictKick event = some (s', outputs)) :
    ¬Owned s' := by
  cases event with
  | clientLogout x account => exact not_owned_of_names h hnoisy hstep
  | clientKickFailed x account => exact not_owned_of_names h hnoisy hstep
  | _ => cases hnoisy

theorem selection_handedOver {c p g : Addr} {session : ClientSession}
    {clientData : ClientData} {serverIdx : UInt16}
    (hc : s.clientSessions c = some session)
    (hpointer : session.clientData = some p)
    (hp : s.clientDatas p = some clientData)
    (hg : s.servers.lookup serverIdx = some g) :
    s.selection c serverIdx = some (clientData, g) := by
  simp only [selection, hc, hpointer, hp, hg, Option.bind_eq_bind,
    Option.bind_some, Option.pure_def]

theorem selection_refused {c : Addr} {serverIdx : UInt16}
    (hnone : (s.clientSessions c).bind ClientSession.clientData = none ∨
      s.servers.lookup serverIdx = none) :
    s.selection c serverIdx = none := by
  cases hselection : s.selection c serverIdx with
  | none => rfl
  | some pair =>
      rcases Option.bind_eq_some_iff.mp hselection with ⟨session, hc, hrest⟩
      rcases Option.bind_eq_some_iff.mp hrest with ⟨p, hpointer, hrest⟩
      rcases Option.bind_eq_some_iff.mp hrest with ⟨clientData, hp, hrest⟩
      rcases Option.bind_eq_some_iff.mp hrest with ⟨g, hg, hpair⟩
      rcases hnone with hnone | hnone
      · rw [hc, Option.bind_some, hpointer] at hnone
        cases hnone
      · rw [hg] at hnone
        cases hnone

end AuthState

/-!
## Runs
-/

/-- A step that takes a client from its session. -/
def Disowns (s : AuthState) (o : Occurrence) : Prop :=
  s.disownedBy o.event = true

/-- A step in which a session hands over client data of somebody else. -/
def SelectsForeignClient (s : AuthState) (o : Occurrence) : Prop :=
  s.selectsForeignClient o.event = true

/--
Sessions own their client data all along a run exactly if no game server that
is logged on reports a client gone that is still in the lobby.
-/
theorem owned_throughout_iff {strictKick : Bool} {history : List Occurrence}
    {s : AuthState} (hrun : AuthRun strictKick history s) :
    Throughout (Step strictKick) AuthState.initial Owned history ↔
      Avoids (Step strictKick) AuthState.initial Disowns history := by
  apply throughout_iff_avoids (step_deterministic strictKick) owned_initial
    _ _ hrun
  · intro earlier s l s' hbefore howned hstep hquiet
    exact AuthState.owned_handle (AuthRun.consistent hbefore) howned
      (Bool.eq_false_iff.mpr hquiet) hstep
  · intro earlier s l s' hbefore hstep hnoisy
    exact AuthState.not_owned_of_disowned (AuthRun.consistent hbefore)
      hnoisy hstep

/-!
## A client that is reported gone too late

The client is back in the lobby when the game server reports it gone.
-/

/-- A name of one letter as the packets of a game server carry it. -/
def packetName (letter : UInt8) : Vector UInt8 61 :=
  (Vector.replicate 61 0).set 0 letter

def acceptedQuery (letter : UInt8) (accountId : UInt32) :
    AccountQuery where
  account := [letter]
  results := [{
    ok := true
    authOk := true
    block := false
    accountId := accountId
    age := 0
    eventCode := 0
    pcBang := 0
    lastLoginServerIdx := 1
    serverIdxOffset := 0 }]
  ip := Vector.replicate 46 0

def namelessServer (serverIdx : UInt16) : ServerLogin where
  serverIdx := serverIdx
  serverName := Vector.replicate 21 0
  serverScreenshotUrl := Vector.replicate 256 0
  isAdultServer := false
  serverIp := Vector.replicate 16 0
  serverPort := 0

/-- A game server logs in, and a client that stays in the lobby. -/
def lobbyEvents : List Event :=
  [Event.gameConnected 1,
    Event.serverLogin 1 LoginKind.login (namelessServer 1) 2,
    Event.clientConnected 3,
    Event.accountAuthResult 3 (acceptedQuery 97 7) 4]

theorem owned_throughout_iff_lobby :
    exists history s, AuthRun false history s ∧
      (s.clientDatas 4).isSome = true ∧
        (Throughout (Step false) AuthState.initial Owned history ↔
          Avoids (Step false) AuthState.initial Disowns history) := by
  have hreplay : (replay (nextStep false) AuthState.initial lobbyEvents).map
      (fun result => (result.2.clientDatas 4).isSome) = some true := by
    decide +kernel
  rcases Option.map_eq_some_iff.mp hreplay with ⟨⟨history, s⟩, heq, hlive⟩
  have hrun := replay_run (nextStep_step false) Run.nil heq
  exact ⟨history, s, hrun, hlive, owned_throughout_iff hrun⟩

/-- The notice names a client that its session still points at. -/
theorem lobby_client_disowned :
    exists strictKick history s, AuthRun strictKick history s ∧
      ¬Owned s := by
  have hreplay : (replay (nextStep false) AuthState.initial
      (lobbyEvents ++ [Event.clientLogout 1 (packetName 97)])).map
        (fun result =>
          ((result.2.clientSessions 3).bind ClientSession.clientData,
            result.2.clientDatas 4)) = some (some 4, none) := by
    decide +kernel
  rcases Option.map_eq_some_iff.mp hreplay with ⟨⟨history, s⟩, heq, hpair⟩
  refine ⟨false, history, s, replay_run (nextStep_step false) Run.nil heq, ?_⟩
  intro howned
  rcases Option.bind_eq_some_iff.mp (congrArg Prod.fst hpair) with
    ⟨session, hc, hpointer⟩
  rcases howned 3 session 4 hc hpointer with ⟨clientData, hp, -⟩
  have hgone : s.clientDatas 4 = none := congrArg Prod.snd hpair
  rw [hgone] at hp
  cases hp

end Auth
end Rzu
