import Rzu.Auth.Ownership

/-!
# Isolation of game servers

What the packets of one game server do to the clients that are not bound to it:
nothing, except for notices that name such a client.
-/

namespace Rzu
namespace Auth

open Library

/-- Client data that both maps hold. -/
structure Registered (s : AuthState) (p : Addr) (clientData : ClientData) :
    Prop where
  live : s.clientDatas p = some clientData
  byId : s.connectedClients.lookup clientData.accountId = some p
  byName : s.connectedClientsByName.lookup (toLower clientData.account) =
    some p

def Event.isPacketOf (x : Addr) : Event -> Bool
  | Event.serverLogin y _ _ _ => y = x
  | Event.accountList y _ _ => y = x
  | Event.serverLogout y => y = x
  | Event.clientLogin y _ _ => y = x
  | Event.clientLogout y _ => y = x
  | Event.clientKickFailed y _ => y = x
  | _ => false

namespace AuthState

/-- Whether a name is that of a client that is not bound to a server. -/
def namesForeignClient (s : AuthState) (g : Addr)
    (account : Vector UInt8 61) : Bool :=
  match (s.getClient (packetAccount account)).bind s.clientDatas with
  | some clientData => clientData.server ≠ some g
  | none => false

/-- Whether a packet is a notice about a client of somebody else. -/
def reportsForeignClient (s : AuthState) (g : Addr) : Event -> Bool
  | Event.clientLogout _ account => s.namesForeignClient g account
  | Event.clientKickFailed _ account => s.namesForeignClient g account
  | _ => false

/-- The clients that are not bound to a server stay as they are. -/
def KeepsOthers (s : AuthState) (g : Addr) (s' : AuthState) : Prop :=
  forall p clientData, Registered s p clientData ->
    clientData.server ≠ some g -> Registered s' p clientData

variable {s s' : AuthState}

theorem registered_of_live (h : Consistent s) {p : Addr}
    {clientData : ClientData} (hp : s.clientDatas p = some clientData) :
    Registered s p clientData :=
  ⟨hp, h.clients.toId hp, h.clients.toName hp⟩

theorem keepsOthers_of_live (h' : Consistent s') {g : Addr}
    (hkept : forall p clientData, s.clientDatas p = some clientData ->
      clientData.server ≠ some g -> s'.clientDatas p = some clientData) :
    s.KeepsOthers g s' := by
  intro p clientData hregistered hserver
  exact registered_of_live h' (hkept p clientData hregistered.live hserver)

theorem NoticeCase.keepsOthers (h' : Consistent s') {x g : Addr} {account : Vector UInt8 61}
    (hown : s.namesForeignClient g account = false)
    (hcase : NoticeCase s x account s') : s.KeepsOthers g s' := by
  apply keepsOthers_of_live h'
  intro q found hq hserver
  cases hcase with
  | ignored => exact hq
  | removed hx hback hname hp =>
      rename_i session g' p clientData
      have hne : q ≠ p := by
        intro heq
        subst heq
        rw [namesForeignClient, hname, Option.bind_some, hq] at hown
        exact hserver (not_not.mp (of_decide_eq_false hown))
      exact (Function.update_of_ne hne _ _).trans hq

theorem AccountListCase.keepsOthers (h' : Consistent s') {x g : Addr}
    {session : GameServerSession} {packet : AccountList}
    {newClients : List Addr} {outputs : List Output}
    (hx : s.gameSessions x = some session) (hback : session.gameData = some g)
    (hcase : AccountListCase s x packet newClients s' outputs) :
    s.KeepsOthers g s' := by
  apply keepsOthers_of_live h'
  intro p clientData hp hserver
  cases hcase with
  | ignored hignored => exact hp
  | collected hx' hback' hsize hfinal => exact hp
  | synchronized hx' hback' hsize hfinal hforgets hgone hadds hg =>
      rw [hx] at hx'
      cases hx'
      rw [hback] at hback'
      cases hback'
      exact hadds.clientDatas (hforgets.clientDatas_of_ne hp hserver)

theorem LogoutCase.keepsOthers (h' : Consistent s') {x g : Addr}
    {session : GameServerSession} (hx : s.gameSessions x = some session)
    (hback : session.gameData = some g) (hcase : LogoutCase s x s') :
    s.KeepsOthers g s' := by
  apply keepsOthers_of_live h'
  intro p clientData hp hserver
  cases hcase with
  | ignored => exact hp
  | closed hx' hback' hg hforgets hgone =>
      rw [hx] at hx'
      cases hx'
      rw [hback] at hback'
      cases hback'
      exact hforgets.clientDatas_of_ne hp hserver

theorem ClientLoginCase.keepsOthers (h' : Consistent s') {x g : Addr}
    {session : GameServerSession} {packet : ClientLogin} {now : Int64}
    {outputs : List Output} (hx : s.gameSessions x = some session)
    (hback : session.gameData = some g)
    (hcase : ClientLoginCase s x packet now s' outputs) :
    s.KeepsOthers g s' := by
  apply keepsOthers_of_live h'
  intro q found hq hserver
  cases hcase with
  | refused hresult => exact hq
  | entered hx' hback' hname hp hg henter hresult =>
      rename_i p clientData gameData message
      rw [hx] at hx'
      cases hx'
      rw [hback] at hback'
      cases hback'
      have hne : q ≠ p := by
        intro heq
        subst heq
        rw [hp] at hq
        cases hq
        exact hserver henter.server
      exact (Function.update_of_ne hne _ _).trans hq

/-- A packet that does not report a client of somebody else. -/
theorem keepsOthers_of_handle (h : Consistent s) {strictKick : Bool}
    {x g : Addr} {session : GameServerSession} {event : Event}
    {outputs : List Output} (hx : s.gameSessions x = some session)
    (hback : session.gameData = some g)
    (hpacket : event.isPacketOf x = true)
    (hown : s.reportsForeignClient g event = false)
    (hstep : s.handle strictKick event = some (s', outputs)) :
    s.KeepsOthers g s' := by
  have h' := consistent_handle h hstep
  cases event with
  | serverLogin y kind packet newGameData =>
      rcases onServerLogin_cases h hstep with ⟨session', hy, hcase⟩
      apply keepsOthers_of_live h'
      intro p clientData hp _
      rw [hcase.clients.left]
      exact hp
  | accountList y packet newClients =>
      cases of_decide_eq_true hpacket
      exact (onAccountList_cases h hstep).keepsOthers h' hx hback
  | serverLogout y =>
      cases of_decide_eq_true hpacket
      exact (onServerLogout_cases h hstep).keepsOthers h' hx hback
  | clientLogin y packet now =>
      cases of_decide_eq_true hpacket
      exact (onClientLogin_cases hstep).keepsOthers h' hx hback
  | clientLogout y account =>
      exact (removeNamedClient_cases h hstep).keepsOthers h' hown
  | clientKickFailed y account =>
      exact (removeNamedClient_cases h hstep).keepsOthers h' hown
  | _ => cases hpacket

theorem not_keepsOthers_of_names (h : Consistent s) {x g : Addr}
    {session : GameServerSession} {account : Vector UInt8 61}
    {outputs : List Output} (hx : s.gameSessions x = some session)
    (hback : session.gameData = some g)
    (hnames : s.namesForeignClient g account = true)
    (hstep : s.removeNamedClient x account = some (s', outputs)) :
    ¬s.KeepsOthers g s' := by
  unfold namesForeignClient at hnames
  split at hnames
  · rename_i clientData hclient
    rcases Option.bind_eq_some_iff.mp hclient with ⟨p, hname, hp⟩
    have heq : s.removeNamedClient x account =
        some (s.forget p clientData, []) := by
      simp only [removeNamedClient, hx, hback, hname, Option.bind_eq_bind,
        Option.bind_some, removeClient_eq h.indexed hp, Option.map_some]
    rw [heq] at hstep
    cases hstep
    intro hkeeps
    have hkept := hkeeps p clientData (registered_of_live h hp)
      (of_decide_eq_true hnames)
    exact (forget_clientDatas_eq_some hkept.live).left rfl
  · cases hnames

/--
The packets of a game server leave the clients of everybody else alone, unless
the packet is a logout or a failed kick that names one of them.
-/
theorem keepsOthers_iff {strictKick : Bool} {history : List Occurrence}
    (hrun : AuthRun strictKick history s) {x g : Addr}
    {session : GameServerSession} {event : Event} {outputs : List Output}
    (hx : s.gameSessions x = some session)
    (hback : session.gameData = some g)
    (hpacket : event.isPacketOf x = true)
    (hstep : s.handle strictKick event = some (s', outputs)) :
    s.KeepsOthers g s' ↔ s.reportsForeignClient g event = false := by
  have h := AuthRun.consistent hrun
  constructor
  · intro hkeeps
    by_contra hforeign
    have hnames := Bool.of_not_eq_false hforeign
    cases event with
    | clientLogout y account =>
        cases of_decide_eq_true hpacket
        exact not_keepsOthers_of_names h hx hback hnames hstep hkeeps
    | clientKickFailed y account =>
        cases of_decide_eq_true hpacket
        exact not_keepsOthers_of_names h hx hback hnames hstep hkeeps
    | _ => cases hnames
  · intro hown
    exact keepsOthers_of_handle h hx hback hpacket hown hstep

end AuthState

/-- Two game servers, and a client that chose the second one. -/
def movedEvents : List Event :=
  [Event.gameConnected 1,
    Event.serverLogin 1 LoginKind.login (namelessServer 1) 2,
    Event.gameConnected 5,
    Event.serverLogin 5 LoginKind.login (namelessServer 2) 6,
    Event.clientConnected 3,
    Event.accountAuthResult 3 (acceptedQuery 97 7) 4,
    Event.selectServer 3 2 99]

/-- The first server asks for the client of the second one, in vain. -/
theorem keepsOthers_iff_moved :
    exists history s s' outputs, AuthRun false history s ∧
      s.handle false (Event.clientLogin 1 ⟨packetName 97, 99⟩ 0) =
        some (s', outputs) ∧
          (s.KeepsOthers 2 s' ↔ s.reportsForeignClient 2
            (Event.clientLogin 1 ⟨packetName 97, 99⟩ 0) = false) := by
  have hreplay : (replay (nextStep false) AuthState.initial movedEvents).map
      (fun result =>
        ((result.2.gameSessions 1).bind GameServerSession.gameData,
          (result.2.handle false
            (Event.clientLogin 1 ⟨packetName 97, 99⟩ 0)).isSome)) =
        some (some 2, true) := by
    decide +kernel
  rcases Option.map_eq_some_iff.mp hreplay with ⟨⟨history, s⟩, heq, hpair⟩
  have hsession : (s.gameSessions 1).bind GameServerSession.gameData =
      some 2 := congrArg Prod.fst hpair
  rcases Option.bind_eq_some_iff.mp hsession with ⟨session, hx, hback⟩
  rcases Option.isSome_iff_exists.mp (congrArg Prod.snd hpair) with
    ⟨⟨s', outputs⟩, hstep⟩
  have hrun := replay_run (nextStep_step false) Run.nil heq
  exact ⟨history, s, s', outputs, hrun, hstep,
    AuthState.keepsOthers_iff hrun hx hback rfl hstep⟩

/-- The first server reports the client of the second one gone. -/
theorem moved_client_disturbed :
    exists strictKick history s x g session account s' outputs,
      AuthRun strictKick history s ∧
        s.gameSessions x = some session ∧ session.gameData = some g ∧
          s.handle strictKick (Event.clientLogout x account) =
            some (s', outputs) ∧
              ¬s.KeepsOthers g s' := by
  have hreplay : (replay (nextStep false) AuthState.initial movedEvents).map
      (fun result =>
        ((result.2.gameSessions 1).bind GameServerSession.gameData,
          (result.2.handle false
            (Event.clientLogout 1 (packetName 97))).isSome,
          result.2.namesForeignClient 2 (packetName 97))) =
        some (some 2, true, true) := by
    decide +kernel
  rcases Option.map_eq_some_iff.mp hreplay with ⟨⟨history, s⟩, heq, hpair⟩
  have hsession : (s.gameSessions 1).bind GameServerSession.gameData =
      some 2 := congrArg Prod.fst hpair
  have hnames : s.namesForeignClient 2 (packetName 97) = true :=
    congrArg (fun pair => pair.2.2) hpair
  rcases Option.bind_eq_some_iff.mp hsession with ⟨session, hx, hback⟩
  rcases Option.isSome_iff_exists.mp
    (congrArg (fun pair => pair.2.1) hpair) with ⟨⟨s', outputs⟩, hstep⟩
  have hrun := replay_run (nextStep_step false) Run.nil heq
  exact ⟨false, history, s, 1, 2, session, packetName 97, s', outputs,
    hrun, hx, hback, hstep, AuthState.not_keepsOthers_of_names
      (AuthRun.consistent hrun) hx hback hnames hstep⟩

end Auth
end Rzu
