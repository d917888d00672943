import Rzu.Auth.Isolation

/-!
# Refused server logins

The mode of a login is noted before the login is looked at, so a refused one
may still change what the session does later.
-/

namespace Rzu
namespace Auth

open Library (replay replay_run Run)

namespace AuthState

/-- A login of a session is answered with anything but a success. -/
def Refuses (x : Addr) (outputs : List Output) : Prop :=
  exists result, result ≠ ResultCode.success ∧
    Output.loginResult x result ∈ outputs

/-- What a packet on a session has left for later. -/
structure Unnoticed (s s' : AuthState) (x : Addr) : Prop where
  clientDatas : s'.clientDatas = s.clientDatas
  gameDatas : s'.gameDatas = s.gameDatas
  clientSessions : s'.clientSessions = s.clientSessions
  connectedClients : s'.connectedClients = s.connectedClients
  connectedClientsByName :
    s'.connectedClientsByName = s.connectedClientsByName
  servers : s'.servers = s.servers
  gameData : (s'.gameSessions x).map GameServerSession.gameData =
    (s.gameSessions x).map GameServerSession.gameData
  others : forall y, y ≠ x -> s'.gameSessions y = s.gameSessions y
  /-- What happens when the session disconnects. -/
  disconnects : s'.deleteGameSession x = s.deleteGameSession x
  /-- What a client login is answered with, and in which format. -/
  replies : forall packet now,
    (s'.onClientLogin x packet now).map Prod.snd =
      (s.onClientLogin x packet now).map Prod.snd

variable {s s' : AuthState} {x : Addr} {session : GameServerSession}
variable {kind : LoginKind} {packet : ServerLogin} {outputs : List Output}

theorem Unnoticed.rfl (s : AuthState) (x : Addr) : Unnoticed s s x := by
  constructor <;> intros <;> exact Eq.refl _

theorem not_refuses_success {y : Addr} (closed : List Addr) :
    ¬Refuses x (closed.map Output.closeSession ++
      [Output.loginResult y ResultCode.success]) := by
  intro h
  rcases h with ⟨result, hne, hmem⟩
  rcases List.mem_append.mp hmem with hmem | hmem
  · rcases List.mem_map.mp hmem with ⟨z, -, heq⟩
    cases heq
  · cases List.mem_singleton.mp hmem
    exact hne (Eq.refl _)

theorem loginServer_refused (h : Consistent s) {newGameData : Addr}
    (hx : s.gameSessions x = some session) (hnone : session.gameData = none)
    (hstep : s.loginServer x kind packet newGameData = some (s', outputs))
    (hrefuses : Refuses x outputs) : s' = s := by
  rcases (loginServer_cases h hx hnone hstep).right with hsame |
    ⟨closed, heq⟩
  · exact hsame
  · rw [heq] at hrefuses
    exact absurd hrefuses (not_refuses_success closed)

theorem onServerLogin_refused (h : Consistent s) {newGameData : Addr}
    (hx : s.gameSessions x = some session)
    (hstep : s.onServerLogin x kind packet newGameData = some (s', outputs))
    (hrefuses : Refuses x outputs) : s' = s.noteKind x session kind := by
  rw [onServerLogin, hx, Option.bind_eq_bind, Option.bind_some] at hstep
  split at hstep
  · cases hstep
    exact Eq.refl _
  · rename_i hnone
    exact loginServer_refused (consistent_noteKind h kind hx)
      (Function.update_self _ _ _) hnone hstep hrefuses

theorem noteKind_same (hx : s.gameSessions x = some session)
    (hsame : session.useAutoReconnectFeature =
      kind.useAutoReconnectFeature) : s.noteKind x session kind = s := by
  rw [noteKind, ← hsame, setGameSession]
  change { s with gameSessions :=
    Function.update s.gameSessions x (some session) } = s
  rw [← hx, Function.update_eq_self]

theorem onClientLogin_denied (h : Consistent s)
    (hx : s.gameSessions x = some session) {login : ClientLogin}
    (hwrong : forall p clientData,
      s.getClient (packetAccount login.account) = some p ->
        s.clientDatas p = some clientData ->
          clientData.oneTimePassword ≠ some login.oneTimeKey) (now : Int64) :
    (s.onClientLogin x login now).map Prod.snd =
      some [Output.clientLogin x (clientLoginResult
        session.useAutoReconnectFeature (packetAccount login.account)
          ResultCode.accessDenied none)] := by
  rw [onClientLogin, hx, Option.bind_eq_bind, Option.bind_some]
  split
  · rename_i g p hback hclient
    rcases h.paired.gameData hx hback with ⟨gameData, hg, -⟩
    rcases h.clients.ofName hclient with ⟨clientData, hp, -⟩
    have hcheck : s.clientLoginCheck g p login =
        some ResultCode.accessDenied := by
      rw [clientLoginCheck, hp, hg]
      simp only [Option.bind_eq_bind, Option.bind_some,
        hwrong p clientData hclient hp, ne_eq, not_false_eq_true, if_true,
        Option.pure_def, ite_self]
    have henter : s.enterIfSuccess p now ResultCode.accessDenied = some s :=
      rfl
    rw [loginClient, hcheck]
    simp only [Option.bind_eq_bind, Option.bind_some, henter, hp]
    rfl
  · rfl

theorem exists_denied (h : Consistent s) :
    exists login : ClientLogin, forall p clientData,
      s.getClient (packetAccount login.account) = some p ->
        s.clientDatas p = some clientData ->
          clientData.oneTimePassword ≠ some login.oneTimeKey := by
  have hkeys : forall given : Option UInt64, exists key : UInt64,
      given ≠ some key := by
    intro given
    by_cases hzero : given = some 0
    · refine ⟨1, ?_⟩
      rw [hzero]
      intro heq
      cases heq
    · exact ⟨0, hzero⟩
  cases hclient : s.getClient (packetAccount (Vector.replicate 61 0)) with
  | none =>
      refine ⟨⟨Vector.replicate 61 0, 0⟩, ?_⟩
      intro p clientData hfound
      rw [hclient] at hfound
      cases hfound
  | some p =>
      rcases h.clients.ofName hclient with ⟨clientData, hp, -⟩
      rcases hkeys clientData.oneTimePassword with ⟨key, hkey⟩
      refine ⟨⟨Vector.replicate 61 0, key⟩, ?_⟩
      intro q found hfound hq
      rw [hclient] at hfound
      cases hfound
      rw [hp] at hq
      cases hq
      exact hkey

theorem mode_of_replies (h : Consistent s)
    (hx : s.gameSessions x = some session)
    (hsame : Unnoticed s (s.noteKind x session kind) x) :
    session.useAutoReconnectFeature = kind.useAutoReconnectFeature := by
  rcases exists_denied h with ⟨login, hwrong⟩
  have hbefore := onClientLogin_denied h hx hwrong 0
  have hafter := onClientLogin_denied (s := s.noteKind x session kind)
    (consistent_noteKind h kind hx) (Function.update_self _ _ _) hwrong 0
  have hreplies := hsame.replies login 0
  rw [hbefore, hafter] at hreplies
  have hformat : forall (reconnect reconnect' : Bool)
      (account : CharString),
      clientLoginResult reconnect account ResultCode.accessDenied none =
        clientLoginResult reconnect' account ResultCode.accessDenied none ->
      reconnect = reconnect' := by
    intro reconnect reconnect' account heq
    have hextended := congrArg ClientLoginResult.extended heq
    cases reconnect <;> cases reconnect' <;>
      first | rfl | exact absurd hextended (by simp [clientLoginResult])
  have houtput := List.singleton_inj.mp (Option.some.inj hreplies)
  injection houtput with _ hmessage
  exact (hformat _ _ _ hmessage).symm

/--
Nobody notices a refused login exactly if it is of the mode that the session
is in.
-/
theorem unnoticed_iff_same_mode {strictKick : Bool}
    {history : List Occurrence} (hrun : AuthRun strictKick history s)
    (hx : s.gameSessions x = some session) {newGameData : Addr}
    (hstep : s.handle strictKick
      (Event.serverLogin x kind packet newGameData) = some (s', outputs))
    (hrefuses : Refuses x outputs) :
    Unnoticed s s' x ↔
      session.useAutoReconnectFeature = kind.useAutoReconnectFeature := by
  have h := AuthRun.consistent hrun
  have heq := onServerLogin_refused h hx hstep hrefuses
  subst heq
  constructor
  · intro hsame
    exact mode_of_replies h hx hsame
  · intro hmode
    rw [noteKind_same hx hmode]
    exact Unnoticed.rfl s x

end AuthState

/-- A game server that is logged in without a mode to reconnect. -/
def loggedInEvents : List Event :=
  [Event.gameConnected 1,
    Event.serverLogin 1 LoginKind.login (namelessServer 1) 2]

theorem loggedIn_reached :
    exists history s session, AuthRun false history s ∧
      s.gameSessions 1 = some session ∧
        session.useAutoReconnectFeature = false ∧
          (forall kind, exists s', s.handle false
            (Event.serverLogin 1 kind (namelessServer 2) 3) =
              some (s', [Output.loginResult 1
                ResultCode.invalidArgument])) := by
  have hreplay : (replay (nextStep false) AuthState.initial
      loggedInEvents).map (fun result => result.2.gameSessions 1) =
        some (some ⟨some 2, false, []⟩) := by
    decide +kernel
  rcases Option.map_eq_some_iff.mp hreplay with ⟨⟨history, s⟩, heq, hx⟩
  refine ⟨history, s, _, replay_run (nextStep_step false) Run.nil heq, hx,
    rfl, ?_⟩
  intro kind
  refine ⟨s.noteKind 1 ⟨some 2, false, []⟩ kind, ?_⟩
  change s.onServerLogin 1 kind _ 3 = _
  rw [AuthState.onServerLogin, hx]
  rfl

theorem refuses_invalidArgument :
    AuthState.Refuses 1
      [Output.loginResult 1 ResultCode.invalidArgument] := by
  refine ⟨ResultCode.invalidArgument, ?_, List.mem_singleton_self _⟩
  intro heq
  cases heq

theorem unnoticed_iff_same_mode_again :
    exists history s s' outputs, exists session : GameServerSession,
      AuthRun false history s ∧
      s.handle false (Event.serverLogin 1 LoginKind.login
        (namelessServer 2) 3) = some (s', outputs) ∧
          (AuthState.Unnoticed s s' 1 ↔ session.useAutoReconnectFeature =
            LoginKind.login.useAutoReconnectFeature) := by
  rcases loggedIn_reached with ⟨history, s, session, hrun, hx, hmode, hlogin⟩
  rcases hlogin LoginKind.login with ⟨s', hstep⟩
  exact ⟨history, s, s', _, session, hrun, hstep,
    AuthState.unnoticed_iff_same_mode hrun hx hstep
      refuses_invalidArgument⟩

/-- The same session logs in once more, now able to reconnect. -/
theorem refused_login_noticed :
    ¬forall strictKick history s x session kind packet newGameData s' outputs,
      AuthRun strictKick history s -> s.gameSessions x = some session ->
        s.handle strictKick
          (Event.serverLogin x kind packet newGameData) =
            some (s', outputs) ->
        AuthState.Refuses x outputs -> AuthState.Unnoticed s s' x := by
  intro h
  rcases loggedIn_reached with ⟨history, s, session, hrun, hx, hmode, hlogin⟩
  rcases hlogin LoginKind.loginWithLogout with ⟨s', hstep⟩
  have hsame := h false history s 1 session LoginKind.loginWithLogout _ 3 s' _
    hrun hx hstep refuses_invalidArgument
  have hchanged := AuthState.onServerLogin_refused (AuthRun.consistent hrun)
    hx hstep refuses_invalidArgument
  subst hchanged
  have hequal := AuthState.mode_of_replies (AuthRun.consistent hrun) hx hsame
  rw [hmode] at hequal
  cases hequal

end Auth
end Rzu
