import Rzu.Auth.Ownership
import Rzu.Library.Trace

/-!
# One time keys

Who may log in on a game server, told from what the sessions have shown before:
the account was handed over with that very key, by a session that had proved
to be the account, and nothing has replaced or used up the key since.
-/

namespace Rzu
namespace Auth

open Library

/-- What happens to sessions, accounts and game servers. -/
inductive Observation where
  | opened (c : Addr)
  | authenticated (c : Addr) (account : CharString)
  | selected (c : Addr) (account : CharString) (g : Addr) (key : UInt64)
  | registered (account : CharString)
  | loggedIn (account : CharString) (g : Addr) (key : UInt64)
      (ready : Bool)
  | removed (g : Addr)
deriving DecidableEq

namespace Observation

/-- What a client session does itself. -/
def isOf (c : Addr) : Observation -> Prop
  | opened c' => c' = c
  | authenticated c' _ => c' = c
  | selected c' _ _ _ => c' = c
  | _ => False

/-- What replaces or uses up the key of an account on a game server. -/
def ends (account : CharString) (g : Addr) : Observation -> Prop
  | selected _ account' _ _ => account' = account
  | registered account' => account' = account
  | loggedIn account' _ _ _ => account' = account
  | removed g' => g' = g
  | _ => False

end Observation

/-- The session has proved to be the account, and has not moved on. -/
def Authenticated (c : Addr) (account : CharString)
    (trace : List Observation) : Prop :=
  exists before, Since (fun o => ¬o.isOf c)
    (Observation.authenticated c account) before trace

/-- The account was handed over to the game server with a key still unused. -/
def Handed (account : CharString) (g : Addr) (key : UInt64)
    (trace : List Observation) : Prop :=
  exists c before, Since (fun o => ¬o.ends account g)
    (Observation.selected c account g key) before trace ∧
      Authenticated c account before

/-- A login needs a ready server and a key that was handed over. -/
def MayLogIn (before : List Observation) : Observation -> Prop
  | Observation.loggedIn account g key ready =>
      ready = true ∧ Handed account g key before
  | _ => True

/-- The discipline of one time keys. -/
def KeyDiscipline (trace : List Observation) : Prop :=
  Justified MayLogIn trace

theorem Authenticated.append {c : Addr} {account : CharString}
    {trace new : List Observation} (h : Authenticated c account trace)
    (hnew : forall o, o ∈ new -> ¬o.isOf c) :
    Authenticated c account (trace ++ new) := by
  rcases h with ⟨before, hsince⟩
  exact ⟨before, hsince.append hnew⟩

theorem Handed.append {account : CharString} {g : Addr} {key : UInt64}
    {trace new : List Observation} (h : Handed account g key trace)
    (hnew : forall o, o ∈ new -> ¬o.ends account g) :
    Handed account g key (trace ++ new) := by
  rcases h with ⟨c, before, hsince, hauthenticated⟩
  exact ⟨c, before, hsince.append hnew, hauthenticated⟩

/-!
## What is observed of the server
-/

/-- The name under which an account is known. -/
def ClientData.key (clientData : ClientData) : CharString :=
  toLower clientData.account

namespace AuthState

def boundAccounts (s : AuthState) (g : Addr) : List CharString :=
  s.connectedClientsByName.entries.filterMap fun entry =>
    if (s.clientDatas entry.2).bind ClientData.server = some g then
      some entry.1
    else none

def serverOf (s : AuthState) (x : Addr) : Option Addr :=
  (s.gameSessions x).bind GameServerSession.gameData

/-- A game server that is gone with its session. -/
def removedServer (s s' : AuthState) (x : Addr) : List Observation :=
  match s.serverOf x with
  | some g =>
      if s'.gameDatas g = none then [Observation.removed g] else []
  | none => []

/-- A final list registers the accounts that are bound afterwards. -/
def registeredAccounts (s s' : AuthState) (x : Addr) (packet : AccountList) :
    List Observation :=
  match s.serverOf x with
  | some g =>
      if packet.finalPacket = true ∧ packet.expectedSize = packet.size then
        (s'.boundAccounts g).map Observation.registered
      else []
  | none => []

def loginSucceeds : List Output -> Bool
  | [Output.clientLogin _ message] => message.result = ResultCode.success
  | _ => false

/-- What an event shows, from the states before and after it. -/
def observe (s : AuthState) (o : Occurrence) (s' : AuthState) :
    List Observation :=
  match o.event with
  | Event.clientConnected c => [Observation.opened c]
  | Event.accountAuthResult c query _ =>
      if Output.result c ResultCode.success 1 ∈ o.outputs then
        [Observation.authenticated c (toLower query.account)]
      else []
  | Event.selectServer c serverIdx oneTimePassword =>
      match s.selection c serverIdx with
      | some (clientData, g) =>
          [Observation.selected c clientData.key g oneTimePassword]
      | none => []
  | Event.accountList x packet _ => s.registeredAccounts s' x packet
  | Event.clientLogin x packet _ =>
      match s.serverOf x with
      | some g =>
          if loginSucceeds o.outputs then
            [Observation.loggedIn (toLower (packetAccount packet.account))
              g packet.oneTimeKey
                (((s.gameDatas g).map GameData.isReady).getD false)]
          else []
      | none => []
  | Event.serverLogout x => s.removedServer s' x
  | Event.gameDisconnected x => s.removedServer s' x
  | _ => []

end AuthState

/-!
## The invariant
-/

structure Remembers (trace : List Observation) (s : AuthState) :
    Prop where
  lobby : forall {p clientData c}, s.clientDatas p = some clientData ->
    clientData.client = some c -> Authenticated c clientData.key trace
  bound : forall {p clientData g}, s.clientDatas p = some clientData ->
    clientData.server = some g -> clientData.inGame = false ->
      exists key, clientData.oneTimePassword = some key ∧
        Handed clientData.key g key trace

theorem remembers_initial : Remembers [] AuthState.initial := by
  constructor
  · intro p clientData c hp
    cases hp
  · intro p clientData g hp
    cases hp

namespace Remembers

variable {trace new : List Observation} {s s' : AuthState}

theorem append (h : Remembers trace s)
    (hlobby : forall {p clientData c}, s'.clientDatas p = some clientData ->
      clientData.client = some c ->
        s.clientDatas p = some clientData ∧
          forall o, o ∈ new -> ¬o.isOf c)
    (hbound : forall {p clientData g},
      s'.clientDatas p = some clientData ->
        clientData.server = some g -> clientData.inGame = false ->
          s.clientDatas p = some clientData ∧
            forall o, o ∈ new -> ¬o.ends clientData.key g) :
    Remembers (trace ++ new) s' := by
  constructor
  · intro p clientData c hp hclient
    rcases hlobby hp hclient with ⟨hold, hnew⟩
    exact (h.lobby hold hclient).append hnew
  · intro p clientData g hp hserver houtside
    rcases hbound hp hserver houtside with ⟨hold, hnew⟩
    rcases h.bound hold hserver houtside with ⟨key, hkey, hhanded⟩
    exact ⟨key, hkey, hhanded.append hnew⟩

theorem silent (h : Remembers trace s)
    (hold : forall {p clientData}, s'.clientDatas p = some clientData ->
      s.clientDatas p = some clientData) :
    Remembers (trace ++ []) s' :=
  h.append (fun hp _ => ⟨hold hp, nofun⟩) (fun hp _ _ => ⟨hold hp, nofun⟩)

end Remembers

/-!
## Steps
-/

namespace AuthState

variable {trace : List Observation} {s s' : AuthState}

theorem key_ne (h : Consistent s) {p q : Addr}
    {clientData found : ClientData} (hp : s.clientDatas p = some clientData)
    (hq : s.clientDatas q = some found) (hne : q ≠ p) :
    clientData.key ≠ found.key := by
  intro heq
  have hname := h.clients.toName hp
  change s.connectedClientsByName.lookup clientData.key = some p at hname
  rw [heq] at hname
  have hname' := h.clients.toName hq
  change s.connectedClientsByName.lookup found.key = some q at hname'
  rw [hname] at hname'
  cases hname'
  exact hne rfl

theorem boundAccounts_spec (h : Consistent s) {g : Addr}
    {account : CharString} (hmem : account ∈ s.boundAccounts g) :
    exists p clientData, s.clientDatas p = some clientData ∧
      clientData.server = some g ∧ clientData.key = account := by
  rcases List.mem_filterMap.mp hmem with ⟨entry, hentry, hsome⟩
  split at hsome
  · rename_i hserver
    cases hsome
    rcases Option.bind_eq_some_iff.mp hserver with ⟨clientData, hp, hg⟩
    have hlookup : s.connectedClientsByName.lookup entry.1 =
        some entry.2 := AList.mem_lookup_iff.mpr hentry
    rcases h.clients.ofName hlookup with ⟨found, hfound, hkey⟩
    rw [hp] at hfound
    cases hfound
    exact ⟨entry.2, clientData, hp, hg, hkey⟩
  · cases hsome

theorem remembers_clientConnected (h : Consistent s)
    (hremembers : Remembers trace s) {c : Addr}
    (hstep : s.clientConnected c = some s') :
    Remembers (trace ++ [Observation.opened c]) s' := by
  unfold clientConnected at hstep
  split at hstep
  · rename_i hfree
    cases hstep
    apply hremembers.append
    · intro p clientData c' hp hclient
      refine ⟨hp, ?_⟩
      intro o ho hof
      cases List.mem_singleton.mp ho
      cases hof
      rcases h.lobby.owner hp hclient with ⟨session, hsession, -⟩
      rw [hfree] at hsession
      cases hsession
    · intro p clientData g hp _ _
      refine ⟨hp, ?_⟩
      intro o ho hends
      cases List.mem_singleton.mp ho
      exact hends
  · cases hstep

theorem EvictCase.remembers (h : Consistent s)
    (hremembers : Remembers trace s) {p : Addr} {old : ClientData}
    (hp : s.clientDatas p = some old) (hcase : EvictCase s p old s') :
    Remembers (trace ++ []) s' := by
  cases hcase with
  | kept => exact hremembers.silent fun hq => hq
  | removed hserver =>
      exact hremembers.silent fun hq =>
        (forget_clientDatas_eq_some hq).right
  | kickRequested hserver hgame =>
      apply hremembers.append
      · intro q found c hq hclient
        rcases update_eq_some hq with ⟨-, hnew⟩ | ⟨-, hold⟩
        · cases hnew
          rw [h.lobby.none_of_server hp hserver] at hclient
          cases hclient
        · exact ⟨hold, nofun⟩
      · intro q found g hq _ houtside
        rcases update_eq_some hq with ⟨-, hnew⟩ | ⟨-, hold⟩
        · cases hnew
          rw [hgame] at houtside
          cases houtside
        · exact ⟨hold, nofun⟩

theorem remembers_authenticate (h : Consistent s)
    (hremembers : Remembers trace s) {c p : Addr}
    {session new : ClientSession} {query : AccountQuery} {row : AccountRow}
    (hc : s.clientSessions c = some session)
    (hnone : session.clientData = none) :
    Remembers
      (trace ++ [Observation.authenticated c (toLower query.account)])
      (s.authenticate c p (newClientData (some c) (query.data row)) new) := by
  have hothers : forall {q found c'}, s.clientDatas q = some found ->
      found.client = some c' -> c ≠ c' := by
    intro q found c' hq hclient heq
    subst heq
    rcases h.lobby.owner hq hclient with ⟨owner, howner, hpointer⟩
    rw [hc] at howner
    cases howner
    rw [hnone] at hpointer
    cases hpointer
  constructor
  · intro q found c' hq hclient
    rcases update_eq_some hq with ⟨-, hnew⟩ | ⟨-, hold⟩
    · cases hnew
      cases hclient
      exact ⟨trace, Since.now⟩
    · apply (hremembers.lobby hold hclient).append
      intro o ho hof
      cases List.mem_singleton.mp ho
      exact hothers hold hclient hof
  · intro q found g hq hserver houtside
    rcases update_eq_some hq with ⟨-, hnew⟩ | ⟨-, hold⟩
    · cases hnew
      cases hserver
    · rcases hremembers.bound hold hserver houtside with
        ⟨key, hkey, hhanded⟩
      refine ⟨key, hkey, hhanded.append ?_⟩
      intro o ho hends
      cases List.mem_singleton.mp ho
      exact hends

theorem remembers_handOver (h : Consistent s)
    (hremembers : Remembers trace s) {c p g : Addr}
    {session : ClientSession} {clientData : ClientData}
    (oneTimePassword : UInt64) (hc : s.clientSessions c = some session)
    (hpointer : session.clientData = some p)
    (hp : s.clientDatas p = some clientData)
    (howner : clientData.client = some c) :
    Remembers
      (trace ++
        [Observation.selected c clientData.key g oneTimePassword])
      (s.handOver c p g session clientData oneTimePassword) := by
  have hauthenticated := hremembers.lobby hp howner
  constructor
  · intro q found c' hq hclient
    rcases update_eq_some hq with ⟨-, hnew⟩ | ⟨hne, hold⟩
    · cases hnew
      cases hclient
    · apply (hremembers.lobby hold hclient).append
      intro o ho hof
      cases List.mem_singleton.mp ho
      cases hof
      rcases h.lobby.owner hold hclient with ⟨owner, hsession, hback⟩
      rw [hc] at hsession
      cases hsession
      rw [hpointer] at hback
      cases hback
      exact hne rfl
  · intro q found g' hq hserver houtside
    rcases update_eq_some hq with ⟨-, hnew⟩ | ⟨hne, hold⟩
    · cases hnew
      cases hserver
      exact ⟨oneTimePassword, rfl, c, trace, Since.now, hauthenticated⟩
    · rcases hremembers.bound hold hserver houtside with
        ⟨key, hkey, hhanded⟩
      refine ⟨key, hkey, hhanded.append ?_⟩
      intro o ho hends
      cases List.mem_singleton.mp ho
      exact key_ne h hp hold hne hends

theorem LeaveCase.remembers (hremembers : Remembers trace s)
    {session : ClientSession} {removed : AuthState}
    (hcase : LeaveCase s session removed) :
    Remembers (trace ++ []) removed := by
  cases hcase with
  | idle hnone => exact hremembers.silent fun hq => hq
  | owner hpointer hp =>
      exact hremembers.silent fun hq =>
        (forget_clientDatas_eq_some hq).right

theorem Forgets.remembers {g : Addr} {cleared : AuthState}
    (hforgets : Forgets g s cleared) (hremembers : Remembers trace s)
    (hgone : forall p clientData, cleared.clientDatas p = some clientData ->
      clientData.server ≠ some g) {next : AuthState}
    (hclients : next.clientDatas = cleared.clientDatas) :
    Remembers (trace ++ [Observation.removed g]) next := by
  apply hremembers.append
  · intro p clientData c hp _
    rw [hclients] at hp
    refine ⟨hforgets.clientDatas_eq_some hp, ?_⟩
    intro o ho hof
    cases List.mem_singleton.mp ho
    exact hof
  · intro p clientData g' hp hserver _
    rw [hclients] at hp
    refine ⟨hforgets.clientDatas_eq_some hp, ?_⟩
    intro o ho hends
    cases List.mem_singleton.mp ho
    cases hends
    exact hgone p clientData hp hserver

theorem removedServer_of_live {x g : Addr} {session : GameServerSession}
    {gameData : GameData} (hx : s.gameSessions x = some session)
    (hback : session.gameData = some g)
    (hg : s'.gameDatas g = some gameData) : s.removedServer s' x = [] := by
  rw [removedServer, serverOf, hx, Option.bind_some, hback]
  simp only [hg]
  rfl

theorem removedServer_of_gone {x g : Addr} {session : GameServerSession}
    (hx : s.gameSessions x = some session)
    (hback : session.gameData = some g) (hg : s'.gameDatas g = none) :
    s.removedServer s' x = [Observation.removed g] := by
  rw [removedServer, serverOf, hx, Option.bind_some, hback]
  exact if_pos hg

theorem removedServer_self (h : Consistent s) (x : Addr) :
    s.removedServer s x = [] := by
  cases hx : s.gameSessions x with
  | none => rw [removedServer, serverOf, hx, Option.bind_none]
  | some session =>
      cases hback : session.gameData with
      | none => rw [removedServer, serverOf, hx, Option.bind_some, hback]
      | some g =>
          rcases h.paired.gameData hx hback with ⟨gameData, hg, -⟩
          exact removedServer_of_live hx hback hg

theorem LogoutCase.remembers (h : Consistent s)
    (hremembers : Remembers trace s) {x : Addr}
    (hcase : LogoutCase s x s') :
    Remembers (trace ++ s.removedServer s' x) s' := by
  cases hcase with
  | ignored =>
      rw [removedServer_self h]
      exact hremembers.silent fun hp => hp
  | closed hx hback hg hforgets hgone =>
      rw [removedServer_of_gone hx hback (Function.update_self _ _ _)]
      exact hforgets.remembers hremembers hgone rfl

theorem EndCase.remembers (hremembers : Remembers trace s) {x : Addr}
    (hcase : EndCase s x s') :
    Remembers (trace ++ s.removedServer s' x) s' := by
  cases hcase with
  | idle hx hnone =>
      rw [removedServer, serverOf, hx, Option.bind_some, hnone]
      exact hremembers.silent fun hp => hp
  | left hx hback hg =>
      rw [removedServer_of_live hx hback (Function.update_self _ _ _)]
      exact hremembers.silent fun hp => hp
  | closed hx hback hg hforgets hgone =>
      rw [removedServer_of_gone hx hback (Function.update_self _ _ _)]
      exact hforgets.remembers hremembers hgone rfl

theorem registeredAccounts_cases {x : Addr} {packet : AccountList}
    {o : Observation} (ho : o ∈ s.registeredAccounts s' x packet) :
    exists g account, s.serverOf x = some g ∧
      packet.finalPacket = true ∧ packet.expectedSize = packet.size ∧
        account ∈ s'.boundAccounts g ∧
          o = Observation.registered account := by
  unfold registeredAccounts at ho
  split at ho
  · rename_i g hserver
    split at ho
    · rename_i hlist
      rcases List.mem_map.mp ho with ⟨account, hmem, heq⟩
      exact ⟨g, account, hserver, hlist.left, hlist.right, hmem, heq.symm⟩
    · cases ho
  · cases ho

theorem AccountListCase.remembers (h' : Consistent s')
    (hremembers : Remembers trace s) {x : Addr} {packet : AccountList}
    {newClients : List Addr} {outputs : List Output}
    (hcase : AccountListCase s x packet newClients s' outputs) :
    Remembers (trace ++ s.registeredAccounts s' x packet) s' := by
  cases hcase with
  | ignored hignored =>
      apply hremembers.append
      · intro p clientData c hp _
        refine ⟨hp, ?_⟩
        intro o ho
        rcases registeredAccounts_cases ho with
          ⟨g, account, -, -, -, -, heq⟩
        subst heq
        exact id
      · intro p clientData g hp _ _
        refine ⟨hp, ?_⟩
        intro o ho
        rcases registeredAccounts_cases ho with
          ⟨g', account, hserver, -, hsize, -, -⟩
        rcases hignored with hnone | hwrong
        · rw [serverOf, hnone] at hserver
          cases hserver
        · exact absurd hsize hwrong
  | collected hx hback hsize hfinal =>
      apply hremembers.append
      · intro p clientData c hp _
        refine ⟨hp, ?_⟩
        intro o ho
        rcases registeredAccounts_cases ho with ⟨_, _, -, htrue, -⟩
        rw [hfinal] at htrue
        cases htrue
      · intro p clientData g hp _ _
        refine ⟨hp, ?_⟩
        intro o ho
        rcases registeredAccounts_cases ho with ⟨_, _, -, htrue, -⟩
        rw [hfinal] at htrue
        cases htrue
  | synchronized hx hback hsize hfinal hforgets hgone hadds hg =>
      rename_i session g gameData cleared added
      apply hremembers.append
      · intro p clientData c hp hclient
        rcases hadds.clientDatas_cases hp with hold |
          ⟨accountInfo, -, hlisted⟩
        · refine ⟨hforgets.clientDatas_eq_some hold, ?_⟩
          intro o ho
          rcases registeredAccounts_cases ho with
            ⟨g', account, -, -, -, -, heq⟩
          subst heq
          exact id
        · subst hlisted
          cases hclient
      · intro p clientData g' hp _ houtside
        rcases hadds.clientDatas_cases hp with hold |
          ⟨accountInfo, -, hlisted⟩
        · refine ⟨hforgets.clientDatas_eq_some hold, ?_⟩
          intro o ho hends
          rcases registeredAccounts_cases ho with
            ⟨g'', account, hserver, -, -, hmem, heq⟩
          rw [serverOf, hx, Option.bind_some, hback] at hserver
          cases hserver
          subst heq
          rcases boundAccounts_spec h' hmem with
            ⟨q, found, hq, hbound, hkey⟩
          have hne : q ≠ p := by
            intro heq
            subst heq
            have hsame := hp.symm.trans hq
            cases hsame
            exact hgone q clientData hold hbound
          exact key_ne h' hp hq hne (hends.symm.trans hkey.symm)
        · subst hlisted
          cases houtside

theorem observe_refused {x : Addr} {packet : ClientLogin} {now : Int64}
    {message : ClientLoginResult}
    (hresult : message.result ≠ ResultCode.success) :
    s.observe ⟨Event.clientLogin x packet now,
      [Output.clientLogin x message]⟩ s' = [] := by
  simp only [observe, loginSucceeds, hresult]
  split
  · rfl
  · rfl

theorem observe_entered {x g p : Addr} {packet : ClientLogin} {now : Int64}
    {message : ClientLoginResult} {session : GameServerSession}
    {clientData : ClientData} {gameData : GameData} (h : Consistent s)
    (hx : s.gameSessions x = some session) (hback : session.gameData = some g)
    (hname : s.getClient (packetAccount packet.account) = some p)
    (hp : s.clientDatas p = some clientData)
    (hg : s.gameDatas g = some gameData)
    (hresult : message.result = ResultCode.success) :
    s.observe ⟨Event.clientLogin x packet now,
      [Output.clientLogin x message]⟩ s' =
        [Observation.loggedIn clientData.key g packet.oneTimeKey
          gameData.isReady] := by
  rcases h.clients.ofName hname with ⟨found, hfound, hkey⟩
  rw [hp] at hfound
  cases hfound
  simp only [observe, loginSucceeds, serverOf, hx, Option.bind_some, hback,
    hresult, hg, Option.map_some, Option.getD_some, decide_true, if_pos]
  rw [← hkey]
  rfl

theorem ClientLoginCase.remembers (h : Consistent s)
    (hremembers : Remembers trace s) {x : Addr} {packet : ClientLogin}
    {now : Int64} {outputs : List Output}
    (hcase : ClientLoginCase s x packet now s' outputs) :
    Remembers (trace ++ s.observe
      ⟨Event.clientLogin x packet now, outputs⟩ s') s' := by
  cases hcase with
  | refused hresult =>
      rw [observe_refused hresult]
      exact hremembers.silent fun hp => hp
  | entered hx hback hname hp hg henter hresult =>
      rw [observe_entered h hx hback hname hp hg hresult]
      apply hremembers.append
      · intro q found c hq hclient
        rcases update_eq_some hq with ⟨-, hnew⟩ | ⟨-, hold⟩
        · cases hnew
          rw [h.lobby.none_of_server hp henter.server] at hclient
          cases hclient
        · refine ⟨hold, ?_⟩
          intro o ho hof
          cases List.mem_singleton.mp ho
          exact hof
      · intro q found g' hq hserver houtside
        rcases update_eq_some hq with ⟨-, hnew⟩ | ⟨hne, hold⟩
        · cases hnew
          cases houtside
        · refine ⟨hold, ?_⟩
          intro o ho hends
          cases List.mem_singleton.mp ho
          exact key_ne h hp hold hne hends

theorem ClientLoginCase.discipline (h : Consistent s)
    (hremembers : Remembers trace s) (hdiscipline : KeyDiscipline trace)
    {x : Addr} {packet : ClientLogin} {now : Int64} {outputs : List Output}
    (hcase : ClientLoginCase s x packet now s' outputs) :
    KeyDiscipline (trace ++ s.observe
      ⟨Event.clientLogin x packet now, outputs⟩ s') := by
  cases hcase with
  | refused hresult =>
      rw [observe_refused hresult, List.append_nil]
      exact hdiscipline
  | entered hx hback hname hp hg henter hresult =>
      rw [observe_entered h hx hback hname hp hg hresult]
      apply hdiscipline.snoc
      rcases hremembers.bound hp henter.server henter.outside with
        ⟨key, hkey, hhanded⟩
      rw [henter.key] at hkey
      cases hkey
      exact ⟨henter.ready, hhanded⟩

/-- A step in which no session hands over what is not its own. -/
theorem remembers_handle (h : Consistent s)
    (hremembers : Remembers trace s) {strictKick : Bool} {event : Event}
    {outputs : List Output} (hown : s.selectsForeignClient event = false)
    (hstep : s.handle strictKick event = some (s', outputs)) :
    Remembers (trace ++ s.observe ⟨event, outputs⟩ s') s' := by
  have h' := consistent_handle h hstep
  cases event with
  | clientConnected c =>
      rcases Option.map_eq_some_iff.mp hstep with ⟨next, hnext, hpair⟩
      cases hpair
      exact remembers_clientConnected h hremembers hnext
  | accountAuthResult c query newClient =>
      cases clientAuthResult_cases h hstep with
      | refused hrefused =>
          rw [observe]
          simp only [if_neg hrefused]
          exact hremembers.silent fun hp => hp
      | authenticated hc hnone hvacant =>
          rw [observe]
          simp only [List.mem_singleton, if_pos]
          exact remembers_authenticate h hremembers hc hnone
      | conflict hq hsame hevict hrefused =>
          rw [observe]
          simp only [if_neg hrefused]
          exact hevict.remembers h hremembers hq
  | selectServer c serverIdx oneTimePassword =>
      cases onSelectServer_cases hstep with
      | refused hnone =>
          rw [observe]
          simp only [selection_refused hnone]
          exact hremembers.silent fun hp => hp
      | handedOver hc hpointer hp hg =>
          have hselection := selection_handedOver hc hpointer hp hg
          rw [observe]
          simp only [hselection]
          apply remembers_handOver h hremembers oneTimePassword hc hpointer hp
          rw [selectsForeignClient, hselection] at hown
          exact not_not.mp (of_decide_eq_false hown)
  | clientDisconnected c =>
      rcases Option.map_eq_some_iff.mp hstep with ⟨next, hnext, hpair⟩
      cases hpair
      rcases onDisconnected_cases h hnext with
        ⟨session, removed, hc, hcase, heq⟩
      subst heq
      have hremoved := hcase.remembers hremembers
      exact ⟨hremoved.lobby, hremoved.bound⟩
  | clientDestroyed c =>
      rcases Option.map_eq_some_iff.mp hstep with ⟨next, hnext, hpair⟩
      cases hpair
      rcases deleteClientSession_cases h hnext with
        ⟨session, removed, hc, hcase, heq⟩
      subst heq
      have hremoved := hcase.remembers hremembers
      exact ⟨hremoved.lobby, hremoved.bound⟩
  | gameConnected x =>
      rcases Option.map_eq_some_iff.mp hstep with ⟨next, hnext, hpair⟩
      cases hpair
      unfold gameConnected at hnext
      split at hnext
      · cases hnext
        exact hremembers.silent fun hp => hp
      · cases hnext
  | serverLogin x kind packet newGameData =>
      rcases onServerLogin_cases h hstep with ⟨session, hx, hcase⟩
      apply hremembers.silent
      intro p clientData hp
      rw [hcase.clients.left] at hp
      exact hp
  | accountList x packet newClients =>
      exact (onAccountList_cases h hstep).remembers h' hremembers
  | serverLogout x =>
      exact (onServerLogout_cases h hstep).remembers h hremembers
  | clientLogin x packet now =>
      exact (onClientLogin_cases hstep).remembers h hremembers
  | clientLogout x account =>
      cases removeNamedClient_cases h hstep with
      | ignored => exact hremembers.silent fun hp => hp
      | removed hx hback hname hp =>
          exact hremembers.silent fun hq =>
            (forget_clientDatas_eq_some hq).right
  | clientKickFailed x account =>
      cases removeNamedClient_cases h hstep with
      | ignored => exact hremembers.silent fun hp => hp
      | removed hx hback hname hp =>
          exact hremembers.silent fun hq =>
            (forget_clientDatas_eq_some hq).right
  | gameDisconnected x =>
      rcases Option.map_eq_some_iff.mp hstep with ⟨next, hnext, hpair⟩
      cases hpair
      exact (deleteGameSession_cases h hnext).remembers hremembers

theorem mayLogIn_of_observe {event : Event} {outputs : List Output}
    (hother : forall x packet now, event ≠ Event.clientLogin x packet now)
    (before : List Observation) {o : Observation}
    (ho : o ∈ s.observe ⟨event, outputs⟩ s') : MayLogIn before o := by
  cases o with
  | loggedIn account g key ready =>
      exfalso
      cases event with
      | clientLogin x packet now => exact hother x packet now rfl
      | accountList x packet newClients =>
          rcases registeredAccounts_cases ho with ⟨_, _, -, -, -, -, heq⟩
          cases heq
      | accountAuthResult c query newClient =>
          simp only [observe] at ho
          split at ho
          · cases List.mem_singleton.mp ho
          · cases ho
      | selectServer c serverIdx oneTimePassword =>
          simp only [observe] at ho
          split at ho
          · cases List.mem_singleton.mp ho
          · cases ho
      | serverLogout x =>
          simp only [observe, removedServer] at ho
          split at ho
          · split at ho
            · cases List.mem_singleton.mp ho
            · cases ho
          · cases ho
      | gameDisconnected x =>
          simp only [observe, removedServer] at ho
          split at ho
          · split at ho
            · cases List.mem_singleton.mp ho
            · cases ho
          · cases ho
      | clientConnected c => cases List.mem_singleton.mp ho
      | _ => cases ho
  | _ => trivial

theorem discipline_handle (h : Consistent s)
    (hremembers : Remembers trace s) (hdiscipline : KeyDiscipline trace)
    {strictKick : Bool} {event : Event} {outputs : List Output}
    (hstep : s.handle strictKick event = some (s', outputs)) :
    KeyDiscipline (trace ++ s.observe ⟨event, outputs⟩ s') := by
  cases event with
  | clientLogin x packet now =>
      exact (onClientLogin_cases hstep).discipline h hremembers hdiscipline
  | _ =>
      apply hdiscipline.append
      intro before o ho
      refine mayLogIn_of_observe ?_ before ho
      intro x packet now heq
      cases heq

end AuthState

/-!
## Runs
-/

/-- The auth server together with what it shows. -/
abbrev ObservedRun (strictKick : Bool)
    (history : List (Occurrence × List Observation)) (s : AuthState) :
    Prop :=
  Run (Observing (Step strictKick) AuthState.observe) AuthState.initial
    history s

/--
One time keys are used as they should be in every run in which the sessions
hand over no client data but their own.
-/
theorem keyDiscipline_of_own_selections {strictKick : Bool}
    {history : List (Occurrence × List Observation)} {s : AuthState}
    (hrun : ObservedRun strictKick history s)
    (hown : Avoids (Observing (Step strictKick) AuthState.observe)
      AuthState.initial (fun s l => SelectsForeignClient s l.1) history) :
    KeyDiscipline (trace history) := by
  have hinvariant : Consistent s ∧ Remembers (trace history) s ∧
      KeyDiscipline (trace history) := by
    apply Run.history_invariant _ _ (hown.run hrun)
    · exact ⟨consistent_initial, remembers_initial, Justified.nil⟩
    · intro earlier mid l next hearlier hstep
      rcases hearlier with ⟨hconsistent, hremembers, hdiscipline⟩
      rcases hstep with ⟨⟨hhandle, hobserved⟩, hquiet⟩
      rw [trace_snoc, hobserved]
      refine ⟨AuthState.consistent_handle hconsistent hhandle, ?_, ?_⟩
      · exact AuthState.remembers_handle hconsistent hremembers
          (Bool.eq_false_iff.mpr hquiet) hhandle
      · exact AuthState.discipline_handle hconsistent hremembers hdiscipline
          hhandle
  exact hinvariant.right.right

/-- Handle an event and note what happened and what it showed. -/
def nextObserved (strictKick : Bool) (s : AuthState) (event : Event) :
    Option ((Occurrence × List Observation) × AuthState) :=
  (s.handle strictKick event).map fun handled =>
    ((⟨event, handled.2⟩, s.observe ⟨event, handled.2⟩ handled.1), handled.1)

theorem nextObserved_step (strictKick : Bool) (s : AuthState)
    (event : Event) (l : Occurrence × List Observation) (s' : AuthState)
    (hnext : nextObserved strictKick s event = some (l, s')) :
    Observing (Step strictKick) AuthState.observe s l s' := by
  rcases Option.map_eq_some_iff.mp hnext with ⟨handled, hhandle, hpair⟩
  cases hpair
  exact ⟨hhandle, rfl⟩

theorem observing_deterministic (strictKick : Bool) :
    Deterministic (Observing (Step strictKick) AuthState.observe) := by
  intro s l s' s'' hstep hstep'
  exact step_deterministic strictKick s l.1 s' s'' hstep.left hstep'.left

/-- Refuse the events that hand over client data of somebody else. -/
def nextOwnSelection (strictKick : Bool) (s : AuthState) (event : Event) :
    Option ((Occurrence × List Observation) × AuthState) :=
  if s.selectsForeignClient event then none
  else nextObserved strictKick s event

theorem nextOwnSelection_step (strictKick : Bool) (s : AuthState)
    (event : Event) (l : Occurrence × List Observation) (s' : AuthState)
    (hnext : nextOwnSelection strictKick s event = some (l, s')) :
    Observing (Step strictKick) AuthState.observe s l s' ∧
      ¬SelectsForeignClient s l.1 := by
  unfold nextOwnSelection at hnext
  split at hnext
  · cases hnext
  · rename_i hown
    refine ⟨nextObserved_step strictKick s event l s' hnext, ?_⟩
    rcases Option.map_eq_some_iff.mp hnext with ⟨handled, -, hpair⟩
    cases hpair
    exact hown

/-- A client that is authenticated, chooses a server and enters the game. -/
def enteringEvents : List Event :=
  lobbyEvents ++
    [Event.selectServer 3 1 99, Event.clientLogin 1 ⟨packetName 97, 99⟩ 0]

theorem keyDiscipline_of_own_selections_entering :
    exists history s, ObservedRun false history s ∧
      trace history =
        [Observation.opened 3, Observation.authenticated 3 [97],
          Observation.selected 3 [97] 2 99,
          Observation.loggedIn [97] 2 99 true] ∧
        KeyDiscipline (trace history) := by
  have hreplay : (replay (nextOwnSelection false) AuthState.initial
      enteringEvents).map (fun result => trace result.1) =
        some [Observation.opened 3, Observation.authenticated 3 [97],
          Observation.selected 3 [97] 2 99,
          Observation.loggedIn [97] 2 99 true] := by
    decide +kernel
  rcases Option.map_eq_some_iff.mp hreplay with ⟨⟨history, s⟩, heq, htrace⟩
  have hrun := replay_run (nextOwnSelection_step false) Run.nil heq
  have hobserved := hrun.mono fun hallowed => hallowed.left
  exact ⟨history, s, hobserved, htrace,
    keyDiscipline_of_own_selections hobserved
      (Avoids.of_run (observing_deterministic false) hrun)⟩

/-- A session whose client data is gone, and its address used again. -/
def foreignSelectionEvents : List Event :=
  lobbyEvents ++
    [Event.clientLogout 1 (packetName 97),
      Event.clientConnected 5,
      Event.accountAuthResult 5 (acceptedQuery 98 8) 4,
      Event.selectServer 3 1 99,
      Event.clientLogin 1 ⟨packetName 98, 99⟩ 0]

/-- The session of one account enters the game as another account. -/
theorem foreign_selection_logs_in :
    exists strictKick history s, ObservedRun strictKick history s ∧
      ¬KeyDiscipline (trace history) := by
  have hreplay : (replay (nextObserved false) AuthState.initial
      foreignSelectionEvents).map (fun result => trace result.1) =
        some [Observation.opened 3, Observation.authenticated 3 [97],
          Observation.opened 5, Observation.authenticated 5 [98],
          Observation.selected 3 [98] 2 99,
          Observation.loggedIn [98] 2 99 true] := by
    decide +kernel
  rcases Option.map_eq_some_iff.mp hreplay with ⟨⟨history, s⟩, heq, htrace⟩
  have hrun := replay_run (nextObserved_step false) Run.nil heq
  refine ⟨false, history, s, hrun, ?_⟩
  intro hdiscipline
  rcases hdiscipline
    [Observation.opened 3, Observation.authenticated 3 [97],
      Observation.opened 5, Observation.authenticated 5 [98],
      Observation.selected 3 [98] 2 99]
    (Observation.loggedIn [98] 2 99 true) [] htrace with
    ⟨-, c, before, hselected, earlier, hauthenticated⟩
  have hc := hselected.mem
  have hproved := hselected.before_subset hauthenticated.mem
  simp at hc
  subst hc
  simp at hproved

end Auth
end Rzu
