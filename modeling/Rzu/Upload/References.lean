import Rzu.Library.Run
import Rzu.Upload.UploadServer

/-!
# References to game server sessions

The map of servers, the pending requests and the open requests of clients
refer to sessions of game servers.  A session that leaves takes back the name
it logged in with last and its pending requests, if that name is not empty.
-/

namespace Rzu
namespace Upload

open Auth (Addr CharString convertToString)
open Library

namespace UploadState

variable {s s' : UploadState} {e : Event} {x y : Addr}

def Step (s : UploadState) (e : Event) (s' : UploadState) : Prop :=
  exists outputs, s.handle e = some (s', outputs)

theorem step_deterministic : Deterministic Step := by
  intro s e s' s'' h h'
  rcases h with ⟨outputs, h⟩
  rcases h' with ⟨outputs', h'⟩
  rw [h] at h'
  cases h'
  rfl

/-- The three places where pointers to game server sessions are kept. -/
inductive Refers (s : UploadState) (x : Addr) : Prop where
  | server (name : CharString) (h : s.servers name = some x)
  | pending (clientId : UInt32) (request : UploadRequest)
      (h : s.pendingRequests clientId = some request)
      (hserver : request.gameServer = x)
  | current (c : Addr) (session : ClientSession) (request : UploadRequest)
      (h : s.clientSessions c = some session)
      (hrequest : session.currentRequest = some request)
      (hserver : request.gameServer = x)

/-- Every pointer to a game server session refers to a live one. -/
def Live (s : UploadState) : Prop :=
  forall x, Refers s x -> exists session, s.gameSessions x = some session

/--
What the destructor of a game server session does not find: another name of
it, all its names and requests if its own name is empty, and the requests
that clients have taken.
-/
inductive Overlooks (s : UploadState) (x : Addr)
    (session : GameServerSession) : Prop where
  | otherName (name : CharString) (h : s.servers name = some x)
      (hname : name ≠ session.serverName)
  | emptyName (h : s.servers [] = some x) (hname : session.serverName = [])
  | unnamed (clientId : UInt32) (request : UploadRequest)
      (h : s.pendingRequests clientId = some request)
      (hserver : request.gameServer = x) (hname : session.serverName = [])
  | taken (c : Addr) (client : ClientSession) (request : UploadRequest)
      (h : s.clientSessions c = some client)
      (hrequest : client.currentRequest = some request)
      (hserver : request.gameServer = x)

/-- A game server leaves that something the destructor overlooks refers to. -/
def LeavesReferences (s : UploadState) : Event -> Prop
  | Event.gameDisconnected x =>
      exists session, s.gameSessions x = some session ∧ s.Overlooks x session
  | _ => False

/-!
## References after each handler
-/

/-- What a handler that destroys nothing may do. -/
structure Keeps (s : UploadState) (s' : UploadState) : Prop where
  survives : forall x session, s.gameSessions x = some session ->
    exists session', s'.gameSessions x = some session'
  refers : forall x, Refers s' x ->
    Refers s x ∨ exists session, s.gameSessions x = some session

theorem Keeps.rfl : Keeps s s where
  survives _ session h := ⟨session, h⟩
  refers _ h := Or.inl h

theorem Keeps.live (h : Keeps s s') (hlive : Live s) : Live s' := by
  intro x hrefers
  rcases h.refers x hrefers with hbefore | ⟨session, hsession⟩
  · rcases hlive x hbefore with ⟨session, hsession⟩
    exact h.survives x session hsession
  · exact h.survives x session hsession

theorem setGameSession_survives (s : UploadState) (x y : Addr)
    (session : GameServerSession) {session' : GameServerSession}
    (h : s.gameSessions y = some session') :
    exists session'', (s.setGameSession x session).gameSessions y =
      some session'' := by
  by_cases heq : y = x
  · subst heq
    exact ⟨session, Function.update_self ..⟩
  · refine ⟨session', ?_⟩
    change Function.update s.gameSessions x (some session) y = some session'
    rw [Function.update_of_ne heq]
    exact h

theorem setGameSession_keeps (s : UploadState) (x : Addr)
    (session : GameServerSession) : Keeps s (s.setGameSession x session) where
  survives y session' h := s.setGameSession_survives x y session h
  refers y h := by
    cases h with
    | server name h => exact Or.inl (Refers.server name h)
    | pending clientId request h hserver =>
        exact Or.inl (Refers.pending clientId request h hserver)
    | current c client request h hrequest hserver =>
        exact Or.inl (Refers.current c client request h hrequest hserver)

theorem setClientSession_keeps {c : Addr} {session : ClientSession}
    (h : forall request, session.currentRequest = some request ->
      Refers s request.gameServer) :
    Keeps s (s.setClientSession c session) where
  survives x session' h := ⟨session', h⟩
  refers x hrefers := by
    apply Or.inl
    cases hrefers with
    | server name h => exact Refers.server name h
    | pending clientId request h hserver =>
        exact Refers.pending clientId request h hserver
    | current c' client request hclient hrequest hserver =>
        change Function.update s.clientSessions c (some session) c' =
          some client at hclient
        by_cases heq : c' = c
        · subst heq
          rw [Function.update_self] at hclient
          cases hclient
          rw [← hserver]
          exact h request hrequest
        · rw [Function.update_of_ne heq] at hclient
          exact Refers.current c' client request hclient hrequest hserver

theorem registered_keeps {session : GameServerSession}
    (hsession : s.gameSessions x = some session) (name : CharString) :
    Keeps s
      { s with servers := Function.update s.servers name (some x) } where
  survives y session' h := ⟨session', h⟩
  refers y hrefers := by
    cases hrefers with
    | server name' h =>
        change Function.update s.servers name (some x) name' = some y at h
        by_cases heq : name' = name
        · subst heq
          rw [Function.update_self] at h
          cases h
          exact Or.inr ⟨session, hsession⟩
        · rw [Function.update_of_ne heq] at h
          exact Or.inl (Refers.server name' h)
    | pending clientId request h hserver =>
        exact Or.inl (Refers.pending clientId request h hserver)
    | current c client request h hrequest hserver =>
        exact Or.inl (Refers.current c client request h hrequest hserver)

theorem Keeps.trans {s'' : UploadState} (h : Keeps s s')
    (h' : Keeps s' s'') (hsame : s'.gameSessions = s.gameSessions) :
    Keeps s s'' where
  survives x session hsession := by
    rw [← hsame] at hsession
    exact h'.survives x session hsession
  refers x hrefers := by
    rcases h'.refers x hrefers with hbefore | hsession
    · exact h.refers x hbefore
    · rw [hsame] at hsession
      exact Or.inr hsession

theorem pushRequest_keeps {session : GameServerSession}
    (hsession : s.gameSessions x = some session) (packet : RequestUpload)
    (now : Int64) : Keeps s (s.pushRequest x packet now) where
  survives y session' h := ⟨session', h⟩
  refers y hrefers := by
    cases hrefers with
    | server name h => exact Or.inl (Refers.server name h)
    | pending clientId request h hserver =>
        change Function.update s.pendingRequests packet.clientId _ clientId =
          some request at h
        by_cases heq : clientId = packet.clientId
        · subst heq
          rw [Function.update_self] at h
          cases hold : s.pendingRequests packet.clientId with
          | none =>
              simp only [hold, Option.some.injEq] at h
              subst h
              cases hserver
              exact Or.inr ⟨session, hsession⟩
          | some oldRequest =>
              simp only [hold, Option.some.injEq] at h
              subst h
              exact Or.inl (Refers.pending _ oldRequest hold hserver)
        · rw [Function.update_of_ne heq] at h
          exact Or.inl (Refers.pending clientId request h hserver)
    | current c client request h hrequest hserver =>
        exact Or.inl (Refers.current c client request h hrequest hserver)

theorem popRequest_cases {packet : ClientLogin}
    {request : Option UploadRequest}
    (h : s.popRequest packet = some (s', request)) :
    (s' = s ∧ request = none) ∨
      exists found, s.pendingRequests packet.clientId = some found ∧
        request = some found ∧
        s' = { s with
          pendingRequests :=
            Function.update s.pendingRequests packet.clientId none } := by
  unfold popRequest at h
  split at h
  · cases h
    exact Or.inl ⟨rfl, rfl⟩
  · rename_i found hfound
    split at h
    · rcases Option.bind_eq_some_iff.mp h with ⟨gameServer, hserver, h⟩
      split at h
      · cases h
        exact Or.inr ⟨found, hfound, rfl, rfl⟩
      · cases h
        exact Or.inl ⟨rfl, rfl⟩
    · cases h
      exact Or.inl ⟨rfl, rfl⟩

theorem clientLogin_keeps {c : Addr} {packet : ClientLogin}
    {outputs : List Output}
    (h : s.clientLogin c packet = some (s', outputs)) : Keeps s s' := by
  rcases Option.bind_eq_some_iff.mp h with ⟨session, hsession, h⟩
  rcases Option.bind_eq_some_iff.mp h with ⟨⟨popped, request⟩, hpop, h⟩
  cases h
  rcases popRequest_cases hpop with ⟨hsame, hnone⟩ | hfound
  · subst hsame hnone
    apply setClientSession_keeps
    intro request hrequest
    cases hrequest
  · rcases hfound with ⟨found, hfound, hrequest, hpopped⟩
    subst hrequest hpopped
    -- The client takes the request over from the map.
    have htaken : Keeps s
        (s.setClientSession c { currentRequest := some found }) := by
      apply setClientSession_keeps
      intro request hrequest
      cases hrequest
      exact Refers.pending packet.clientId found hfound rfl
    apply htaken.trans _ rfl
    constructor
    · intro x session hsession
      exact ⟨session, hsession⟩
    · intro x hrefers
      apply Or.inl
      cases hrefers with
      | server name h => exact Refers.server name h
      | pending clientId request h hserver =>
          change Function.update s.pendingRequests packet.clientId none
            clientId = some request at h
          by_cases heq : clientId = packet.clientId
          · rw [heq, Function.update_self] at h
            cases h
          · rw [Function.update_of_ne heq] at h
            exact Refers.pending clientId request h hserver
      | current c client request h hrequest hserver =>
          exact Refers.current c client request h hrequest hserver

theorem onUpload_keeps {c : Addr} {packet : UploadPacket}
    {timeinfo : TimeInfo} {file : FileOutcome} {outputs : List Output}
    (h : s.onUpload c packet timeinfo file = some (s', outputs)) :
    Keeps s s' := by
  rcases Option.bind_eq_some_iff.mp h with ⟨session, hsession, h⟩
  split at h
  · cases h
    exact Keeps.rfl
  · split at h
    · cases h
      exact Keeps.rfl
    · split at h
      · cases h
        exact Keeps.rfl
      · split at h
        · cases h
          exact Keeps.rfl
        · rcases Option.bind_eq_some_iff.mp h with ⟨gameServer, hserver, h⟩
          split at h
          · cases h
            exact Keeps.rfl
          · cases h
            apply setClientSession_keeps
            intro request hrequest
            cases hrequest

theorem serverLogin_keeps {rawServerName : Vector UInt8 21}
    {outputs : List Output}
    (h : s.serverLogin x rawServerName = some (s', outputs)) :
    Keeps s s' := by
  rcases Option.bind_eq_some_iff.mp h with ⟨session, hsession, h⟩
  dsimp only at h
  split at h
  · split at h
    · cases h
      exact (registered_keeps hsession _).trans
        (setGameSession_keeps _ x _) rfl
    · cases h
      exact Keeps.rfl
  · cases h
    exact Keeps.rfl

theorem handle_keeps {outputs : List Output}
    (h : s.handle e = some (s', outputs))
    (hstays : forall x, e ≠ Event.gameDisconnected x) : Keeps s s' := by
  cases e with
  | gameConnected x =>
      rcases Option.map_eq_some_iff.mp h with ⟨connected, hconnected, heq⟩
      cases heq
      rw [gameConnected] at hconnected
      split at hconnected
      · cases hconnected
        exact s.setGameSession_keeps x _
      · cases hconnected
  | serverLogin x rawServerName => exact serverLogin_keeps h
  | requestUpload x packet now =>
      rcases Option.bind_eq_some_iff.mp h with ⟨session, hsession, h⟩
      cases h
      exact pushRequest_keeps hsession packet now
  | gameDisconnected x => exact absurd rfl (hstays x)
  | clientConnected c =>
      rcases Option.map_eq_some_iff.mp h with ⟨connected, hconnected, heq⟩
      cases heq
      rw [clientConnected] at hconnected
      split at hconnected
      · cases hconnected
        apply setClientSession_keeps
        intro request hrequest
        cases hrequest
      · cases hconnected
  | clientLogin c packet => exact clientLogin_keeps h
  | upload c packet timeinfo file => exact onUpload_keeps h
  | clientDisconnected c =>
      rcases Option.map_eq_some_iff.mp h with ⟨left, hleft, heq⟩
      cases heq
      rcases Option.bind_eq_some_iff.mp hleft with ⟨session, hsession, hleft⟩
      cases hleft
      constructor
      · intro x session hsession
        exact ⟨session, hsession⟩
      · intro x hrefers
        apply Or.inl
        cases hrefers with
        | server name h => exact Refers.server name h
        | pending clientId request h hserver =>
            exact Refers.pending clientId request h hserver
        | current c' client request h hrequest hserver =>
            change Function.update s.clientSessions c none c' =
              some client at h
            by_cases heq : c' = c
            · rw [heq, Function.update_self] at h
              cases h
            · rw [Function.update_of_ne heq] at h
              exact Refers.current c' client request h hrequest hserver

/-!
## The end of a game server session
-/

theorem gameDisconnected_eq {session : GameServerSession}
    (hsession : s.gameSessions x = some session) :
    s.gameDisconnected x = some
      { s with
        gameSessions := Function.update s.gameSessions x none
        servers :=
          if session.serverName = [] then s.servers
          else Function.update s.servers session.serverName none
        pendingRequests := fun clientId =>
          if session.serverName = [] then s.pendingRequests clientId
          else (s.pendingRequests clientId).filter fun request =>
            request.gameServer ≠ x } := by
  simp only [gameDisconnected, hsession, Option.bind_eq_bind,
    Option.bind_some]
  by_cases hname : session.serverName = []
  · simp only [if_pos hname]
    rfl
  · simp only [if_neg hname]
    rfl

theorem gameDisconnected_refers {session : GameServerSession}
    (hsession : s.gameSessions x = some session)
    (h : s.gameDisconnected x = some s') (hrefers : Refers s' y) :
    Refers s y ∧ (y = x -> s.Overlooks x session) := by
  rw [gameDisconnected_eq hsession] at h
  cases h
  cases hrefers with
  | server name h =>
      dsimp only at h
      split at h
      · rename_i hname
        refine ⟨Refers.server name h, ?_⟩
        intro heq
        subst heq
        by_cases hempty : name = []
        · subst hempty
          exact Overlooks.emptyName h hname
        · apply Overlooks.otherName name h
          rw [hname]
          exact hempty
      · by_cases hown : name = session.serverName
        · rw [hown, Function.update_self] at h
          cases h
        · rw [Function.update_of_ne hown] at h
          refine ⟨Refers.server name h, ?_⟩
          intro heq
          subst heq
          exact Overlooks.otherName name h hown
  | pending clientId request h hserver =>
      dsimp only at h
      split at h
      · rename_i hname
        refine ⟨Refers.pending clientId request h hserver, ?_⟩
        intro heq
        subst heq
        exact Overlooks.unnamed clientId request h hserver hname
      · rcases Option.filter_eq_some_iff.mp h with ⟨hpending, hother⟩
        refine ⟨Refers.pending clientId request hpending hserver, ?_⟩
        intro heq
        subst heq
        exact absurd hserver (of_decide_eq_true hother)
  | current c client request h hrequest hserver =>
      refine ⟨Refers.current c client request h hrequest hserver, ?_⟩
      intro heq
      subst heq
      exact Overlooks.taken c client request h hrequest hserver

theorem Overlooks.stays {session : GameServerSession}
    (hoverlooks : s.Overlooks x session)
    (hsession : s.gameSessions x = some session)
    (h : s.gameDisconnected x = some s') : Refers s' x := by
  rw [gameDisconnected_eq hsession] at h
  cases h
  cases hoverlooks with
  | otherName name h hname =>
      apply Refers.server name
      dsimp only
      split
      · exact h
      · rw [Function.update_of_ne hname]
        exact h
  | emptyName h hname =>
      apply Refers.server []
      dsimp only
      rw [if_pos hname]
      exact h
  | unnamed clientId request h hserver hname =>
      apply Refers.pending clientId request _ hserver
      dsimp only
      rw [if_pos hname]
      exact h
  | taken c client request h hrequest hserver =>
      exact Refers.current c client request h hrequest hserver

theorem gameDisconnected_live {session : GameServerSession}
    (hlive : Live s) (hsession : s.gameSessions x = some session)
    (h : s.gameDisconnected x = some s')
    (hfound : ¬s.Overlooks x session) : Live s' := by
  intro y hrefers
  have hbefore := gameDisconnected_refers hsession h hrefers
  have hother : y ≠ x := fun heq => hfound (hbefore.right heq)
  rcases hlive y hbefore.left with ⟨session', hsession'⟩
  rw [gameDisconnected_eq hsession] at h
  cases h
  refine ⟨session', ?_⟩
  dsimp only
  rw [Function.update_of_ne hother]
  exact hsession'

theorem Overlooks.not_live {session : GameServerSession}
    (hoverlooks : s.Overlooks x session)
    (hsession : s.gameSessions x = some session)
    (h : s.gameDisconnected x = some s') : ¬Live s' := by
  intro hlive
  rcases hlive x (hoverlooks.stays hsession h) with ⟨session', hgone⟩
  rw [gameDisconnected_eq hsession] at h
  cases h
  dsimp only at hgone
  rw [Function.update_self] at hgone
  cases hgone

/-!
## Runs
-/

theorem live_initial : Live initial := by
  intro x hrefers
  cases hrefers with
  | server name h => cases h
  | pending clientId request h hserver => cases h
  | current c client request h hrequest hserver => cases h

theorem step_live (hlive : Live s) (hstep : Step s e s')
    (hclean : ¬s.LeavesReferences e) : Live s' := by
  rcases hstep with ⟨outputs, h⟩
  by_cases hleaves : exists x, e = Event.gameDisconnected x
  · rcases hleaves with ⟨x, heq⟩
    subst heq
    rcases Option.map_eq_some_iff.mp h with ⟨left, hleft, heq⟩
    cases heq
    cases hsession : s.gameSessions x with
    | none =>
        rw [gameDisconnected, hsession] at hleft
        cases hleft
    | some session =>
        apply gameDisconnected_live hlive hsession hleft
        intro hoverlooks
        exact hclean ⟨session, hsession, hoverlooks⟩
  · apply (handle_keeps h _).live hlive
    intro x heq
    exact hleaves ⟨x, heq⟩

theorem LeavesReferences.not_live (h : s.LeavesReferences e)
    (hstep : Step s e s') : ¬Live s' := by
  cases e with
  | gameDisconnected x =>
      rcases h with ⟨session, hsession, hoverlooks⟩
      rcases hstep with ⟨outputs, hstep⟩
      rcases Option.map_eq_some_iff.mp hstep with ⟨left, hleft, heq⟩
      cases heq
      exact hoverlooks.not_live hsession hleft
  | _ => exact absurd h id

/--
In a run of the upload server, every pointer to a game server session refers
to a live one in every state, exactly if no session of a game server ends that
the destructor leaves references to.
-/
theorem live_iff_avoids_leavesReferences {history : List Event}
    (hrun : Run Step initial history s) :
    Throughout Step initial Live history ↔
      Avoids Step initial LeavesReferences history := by
  apply throughout_iff_avoids step_deterministic live_initial _ _ hrun
  · intro history s e s' hrun hlive hstep hclean
    exact step_live hlive hstep hclean
  · intro history s e s' hrun hstep hleaves
    exact hleaves.not_live hstep

/-- `TS_SU_LOGIN` of a game server with a name of one letter. -/
def loginAs (x : Addr) (letter : UInt8) : Event :=
  Event.serverLogin x ((Vector.replicate 21 0).set 0 letter)

theorem live_iff_avoids_leavesReferences_login :
    Throughout Step initial Live [Event.gameConnected 1, loginAs 1 97] ↔
      Avoids Step initial LeavesReferences
        [Event.gameConnected 1, loginAs 1 97] :=
  live_iff_avoids_leavesReferences
    (Run.snoc (Run.snoc Run.nil ⟨_, rfl⟩) ⟨_, rfl⟩)

/-- A game server that logs in twice leaves its first name behind. -/
theorem not_live_two_names :
    ¬forall (history : List Event) (s : UploadState),
      Run Step initial history s -> Live s := by
  intro h
  have hlive := h
    [Event.gameConnected 1, loginAs 1 97, loginAs 1 98,
      Event.gameDisconnected 1] _
    (Run.snoc (Run.snoc (Run.snoc (Run.snoc Run.nil ⟨_, rfl⟩) ⟨_, rfl⟩)
      ⟨_, rfl⟩) ⟨_, rfl⟩)
  rcases hlive 1 (Refers.server [97] rfl) with ⟨session, hgone⟩
  cases hgone

end UploadState

end Upload
end Rzu
