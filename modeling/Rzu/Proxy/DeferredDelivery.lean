import Rzu.Proxy.PendingMessages

/-!
# Deferred delivery

What a game server sends while its link to the auth server is down waits, and
is delivered behind the next account list, once and in the order sent.
-/

namespace Rzu
namespace Proxy

open Auth Library Net

/-!
## Runs
-/

namespace GameServer

/-- The proxy closes the link itself while it writes what has waited. -/
def DisturbsFlush (s : GameServer) (l : ProxyEvent × List Seen) : Prop :=
  l.1 = ProxyEvent.loginResult true ∧
    exists a, s.authSession = some a ∧ a.pendingLogin = true ∧
      exists m, m ∈ a.pendingMessages.dropLast ∧ m.isLogout = true

/-- What holds of a run between steps. -/
structure Sound (trace : List Seen) (s : GameServer) : Prop where
  justified : Justified AfterAccountList trace
  keeps : forall a, s.authSession = some a -> Keeps trace a

theorem Sound.initial : Sound [] GameServer.initial :=
  ⟨Justified.nil, nofun⟩

theorem Sound.still {trace : List Seen} {s : GameServer}
    (h : Sound trace s) : Sound (trace ++ []) s := by
  rw [List.append_nil]
  exact h

theorem Sound.replace {trace : List Seen} {s : GameServer}
    (h : Sound trace s) {a : AuthSession} (ha : Keeps trace a) :
    Sound (trace ++ []) { authSession := some a } := by
  rw [List.append_nil]
  refine ⟨h.justified, ?_⟩
  intro a' ha'
  cases ha'
  exact ha

theorem Sound.sendPacket {trace : List Seen}
    (hjustified : Justified AfterAccountList trace) {a : AuthSession}
    {message : GameMessage} (hphase : Phase (LoggedOut trace) a)
    (hforwards : forall m, m ∈ a.pendingMessages ->
      exists message, m = Outgoing.forward message)
    (howed : sentSince trace = deliveredSince trace ++
      (a.pendingMessages ++ [Outgoing.forward message]).filterMap
        Outgoing.deferred?)
    (hlisted : a.synchronizedWithAuth = true -> Listed trace) :
    Sound (trace ++
        (a.sendPacket (Outgoing.forward message)).2.map Seen.delivered)
      { authSession := some (a.sendPacket (Outgoing.forward message)).1 } := by
  refine ⟨Keeps.sendPacket_justified hlisted hjustified _, ?_⟩
  intro a' ha'
  cases ha'
  exact Keeps.sendPacket hphase hforwards howed hlisted

theorem Sound.attach {trace : List Seen} {s : GameServer}
    (h : Sound trace s) :
    Sound (trace ++ [Seen.attached])
      { authSession := some AuthSession.create } := by
  refine ⟨h.justified.snoc (fun _ => nofun), ?_⟩
  intro a ha
  cases ha
  refine ⟨Phase.connecting rfl rfl rfl,
    fun m hm => absurd hm List.not_mem_nil, ?_, nofun⟩
  rw [sentSince_snoc, deliveredSince_snoc]
  rfl

theorem Sound.sends {trace : List Seen} {s : GameServer}
    (h : Sound trace s) {a : AuthSession} (hsession : s.authSession = some a)
    (id : Nat) (body : List UInt8) :
    Sound (trace ++ Seen.sent (GameMessage.other id body) ::
        (a.sendPacket (Outgoing.forward
          (GameMessage.other id body))).2.map Seen.delivered)
      { authSession := some (a.sendPacket (Outgoing.forward
          (GameMessage.other id body))).1 } := by
  have hkeeps := h.keeps a hsession
  have hjustified : Justified AfterAccountList
      (trace ++ [Seen.sent (GameMessage.other id body)]) := by
    apply h.justified.snoc
    intro message heq
    cases heq
  rw [List.append_cons]
  apply Sound.sendPacket hjustified
  · apply hkeeps.phase.mono
    rintro ⟨message, hmem, hlogout⟩
    rw [LoggedOut, sentSince_snoc]
    exact ⟨message, List.mem_append_left _ hmem, hlogout⟩
  · exact hkeeps.forwards
  · rw [sentSince_snoc, deliveredSince_snoc, List.filterMap_append,
      ← List.append_assoc]
    change sentSince trace ++ [GameMessage.other id body] =
      deliveredSince trace ++ a.pendingMessages.filterMap
        Outgoing.deferred? ++ [GameMessage.other id body]
    rw [hkeeps.ledger]
  · intro hsync
    apply (hkeeps.listed hsync).snoc
    intro heq
    cases heq

theorem Sound.onGameMessage {trace : List Seen} {s : GameServer}
    (h : Sound trace s) (message : GameMessage) :
    Sound (trace ++ (s.onGameMessage message).2)
      (s.onGameMessage message).1 := by
  cases hsession : s.authSession with
  | none =>
      cases message with
      | login =>
          rw [GameServer.onGameMessage, hsession]
          exact h.attach
      | clientLogin body =>
          rw [GameServer.onGameMessage, onSession_none hsession]
          exact h.still
      | clientLogout account body =>
          rw [GameServer.onGameMessage, onSession_none hsession]
          exact h.still
      | other id body =>
          rw [GameServer.onGameMessage, onSession_none hsession]
          refine ⟨h.justified.snoc (fun _ => nofun), ?_⟩
          intro a ha
          cases hsession.symm.trans ha
  | some a =>
      have hkeeps := h.keeps a hsession
      cases message with
      | login =>
          rw [GameServer.onGameMessage, hsession]
          exact h.still
      | clientLogin body =>
          rw [GameServer.onGameMessage, onSession_some hsession]
          by_cases hsync : a.synchronizedWithAuth = false
          · rw [if_pos hsync]
            exact h.replace hkeeps
          · rw [if_neg hsync]
            exact Sound.sendPacket h.justified hkeeps.phase hkeeps.forwards
              (hkeeps.unowed rfl) hkeeps.listed
      | clientLogout account body =>
          rw [GameServer.onGameMessage, onSession_some hsession,
            AuthSession.logoutClient]
          have herased : Keeps trace (a.eraseLogin account) :=
            ⟨hkeeps.phase.accounts _, hkeeps.forwards, hkeeps.ledger,
              hkeeps.listed⟩
          split
          · exact Sound.sendPacket h.justified herased.phase herased.forwards
              (herased.unowed rfl) herased.listed
          · exact h.replace herased
      | other id body =>
          rw [GameServer.onGameMessage, onSession_some hsession]
          exact h.sends hsession id body

theorem Sound.onLoginResult {trace : List Seen} {s : GameServer}
    (h : Sound trace s) {a : AuthSession} (hsession : s.authSession = some a)
    (hreceives : receives a = true) (success : Bool)
    (hquiet : success = true -> a.pendingLogin = true -> forall m,
      m ∈ a.pendingMessages.dropLast -> ¬m.isLogout = true) :
    Sound (trace ++ (s.onLoginResult success).2)
      (s.onLoginResult success).1 := by
  have hkeeps := h.keeps a hsession
  cases hlogin : a.pendingLogin with
  | false =>
      rw [onLoginResult_ignored hsession hlogin]
      exact h.still
  | true =>
      rcases hkeeps.phase.loginResult hreceives hlogin with ⟨hstate, hsync⟩
      cases success with
      | true =>
          rw [onLoginResult_success hsession hlogin, onSession_some hsession]
          refine ⟨hkeeps.sendAccountList_justified hstate (hquiet rfl hlogin)
            h.justified, ?_⟩
          intro a' ha'
          cases ha'
          exact hkeeps.sendAccountList hstate (hquiet rfl hlogin)
      | false =>
          rw [onLoginResult_refused hsession hlogin hsync, List.append_nil]
          exact ⟨h.justified, nofun⟩

theorem Sound.connected {trace : List Seen} {s : GameServer}
    (h : Sound trace s) {a : AuthSession} (hsession : s.authSession = some a)
    (hstate : a.currentState = StreamState.connecting) :
    Sound (trace ++ Seen.linked ::
        ({ a with currentState := StreamState.connected } :
          AuthSession).sendLogin.2.map Seen.delivered)
      { authSession := some ({ a with currentState := StreamState.connected } :
          AuthSession).sendLogin.1 } := by
  have hkeeps := h.keeps a hsession
  rcases hkeeps.phase.onConnected hstate with ⟨hlogin, hsync⟩
  rw [hlogin]
  constructor
  · apply h.justified.append
    intro before o ho message hmessage hdeferred
    subst hmessage
    rcases List.mem_cons.mp ho with heq | hmem
    · cases heq
    · cases List.mem_singleton.mp hmem
      exact absurd rfl hdeferred
  · intro a' ha'
    cases ha'
    refine ⟨Phase.loggingIn rfl rfl hsync, hkeeps.forwards, ?_,
      fun h => nomatch hsync.symm.trans h⟩
    rw [List.append_cons, sentSince_delivered, deliveredSince_delivered,
      sentSince_snoc, deliveredSince_snoc]
    change sentSince trace = deliveredSince trace ++ [] ++
      a.pendingMessages.filterMap Outgoing.deferred?
    rw [List.append_nil]
    exact hkeeps.ledger

theorem Sound.step {trace : List Seen} {s s' : GameServer}
    {l : ProxyEvent × List Seen} (h : Sound trace s) (hstep : Step s l s')
    (hgood : ¬DisturbsFlush s l) : Sound (trace ++ l.2) s' := by
  rcases l with ⟨event, seen⟩
  have houtcome := hstep.outcome
  change Outcome s event s' seen at houtcome
  cases houtcome with
  | gameMessage message => exact h.onGameMessage message
  | connected hsession hstate => exact h.connected hsession hstate
  | linkLost hsession =>
      have hkeeps := h.keeps _ hsession
      apply h.replace
      refine ⟨hkeeps.phase.linkLost, ?_, ?_, ?_⟩
      · rw [AuthSession.close_pendingMessages]
        exact hkeeps.forwards
      · rw [AuthSession.close_pendingMessages]
        exact hkeeps.ledger
      · rw [AuthSession.close_synchronizedWithAuth]
        exact hkeeps.listed
  | disconnected hsession hstate =>
      have hkeeps := h.keeps _ hsession
      exact h.replace ⟨hkeeps.phase.onDisconnected hstate, hkeeps.forwards,
        hkeeps.ledger, nofun⟩
  | timerReconnect hsession hstate =>
      have hkeeps := h.keeps _ hsession
      exact h.replace ⟨hkeeps.phase.onTimerReconnect hstate, hkeeps.forwards,
        hkeeps.ledger, hkeeps.listed⟩
  | loginResult hsession hreceives success =>
      apply h.onLoginResult hsession hreceives success
      intro hsuccess hlogin m hm hlogout
      subst hsuccess
      exact hgood ⟨rfl, _, hsession, hlogin, m, hm, hlogout⟩
  | clientLoggedIn hsession accountInfo =>
      have hkeeps := h.keeps _ hsession
      exact h.replace ⟨hkeeps.phase.accounts _, hkeeps.forwards,
        hkeeps.ledger, hkeeps.listed⟩

/-- The steps that leave a flush alone. -/
def QuietStep (s : GameServer) (l : ProxyEvent × List Seen)
    (s' : GameServer) : Prop :=
  Step s l s' ∧ ¬DisturbsFlush s l

theorem Sound.of_run {history : List (ProxyEvent × List Seen)}
    {s : GameServer} (hrun : Run QuietStep GameServer.initial history s) :
    Sound (trace history) s := by
  induction hrun with
  | nil => exact Sound.initial
  | snoc before last ih =>
      rw [trace_snoc]
      exact ih.step last.left last.right

/-!
## What waits can still be delivered
-/

/-- Whether a step is one of the link, not of the game server. -/
def OfLink (l : ProxyEvent × List Seen) : Prop :=
  forall message, l.1 ≠ ProxyEvent.gameMessage message

/-- The link can come back, and the session be synchronised again. -/
def Recovers (s : GameServer) : Prop :=
  exists later s' a', Run QuietStep s later s' ∧
    (forall l, l ∈ later -> OfLink l) ∧ s'.authSession = some a' ∧
      a'.currentState = StreamState.connected ∧
        a'.synchronizedWithAuth = true

theorem Recovers.step {s s' : GameServer} {l : ProxyEvent × List Seen}
    (hstep : QuietStep s l s') (hlink : OfLink l) (h : Recovers s') :
    Recovers s := by
  rcases h with ⟨later, s'', a', hrun, hlater, hend⟩
  refine ⟨[l] ++ later, s'', a', ?_, ?_, hend⟩
  · exact Run.trans (Run.snoc Run.nil hstep) hrun
  · intro l' hl'
    rcases List.mem_append.mp hl' with hfirst | hrest
    · rw [List.mem_singleton.mp hfirst]
      exact hlink
    · exact hlater l' hrest

section Recovering

variable {a : AuthSession}
variable (hforwards : forall m, m ∈ a.pendingMessages ->
  exists message, m = Outgoing.forward message)
variable (hquiet : forall m, m ∈ a.pendingMessages -> ¬m.isLogout = true)

include hforwards hquiet

theorem recovers_loggingIn
    (hstate : a.currentState = StreamState.connected)
    (hlogin : a.pendingLogin = true) :
    Recovers { authSession := some a } := by
  have hpending : forall m, m ∈ a.pendingMessages.dropLast ->
      ¬m.isLogout = true :=
    fun m hm => hquiet m ((List.dropLast_sublist _).subset hm)
  rcases AuthSession.sendAccountList_connected hstate hforwards hpending with
    ⟨a', heq, hcases⟩
  have hreceives : receives a = true := by
    rw [receives, a.isConnected_iff.mpr hstate, Bool.true_or]
  have hhandle : ({ authSession := some a } : GameServer).handle
      (ProxyEvent.loginResult true) = some (({ authSession := some a } :
        GameServer).onLoginResult true) :=
    if_pos hreceives
  rw [onLoginResult_success rfl hlogin, onSession_some rfl, heq] at hhandle
  have hundisturbed : forall seen, ¬DisturbsFlush { authSession := some a }
      (ProxyEvent.loginResult true, seen) := by
    rintro seen ⟨-, b, hb, -, m, hm, hlogout⟩
    cases hb
    exact hpending m hm hlogout
  refine ⟨[(_, _)], _, _, Run.snoc Run.nil ⟨hhandle, hundisturbed _⟩, ?_, rfl,
    ?_⟩
  · intro l hl message
    rw [List.mem_singleton.mp hl]
    intro heq
    cases heq
  · rcases hcases with hsame | ⟨-, m, hm, hlogout⟩
    · subst hsame
      exact ⟨hstate, rfl⟩
    · exact absurd hlogout (hquiet m hm)

theorem recovers_connecting
    (hstate : a.currentState = StreamState.connecting)
    (hlogin : a.pendingLogin = false) :
    Recovers { authSession := some a } := by
  have hsend : ({ a with currentState := StreamState.connected } :
      AuthSession).sendLogin =
        ({ a with
          currentState := StreamState.connected
          pendingLogin := true
          sentLoginPacket := true }, [Outgoing.login]) := by
    rw [AuthSession.sendLogin, if_neg (by simp [hlogin])]
    rfl
  have hhandle : ({ authSession := some a } : GameServer).handle
      ProxyEvent.connected = some
        ({ authSession := some ({ a with
            currentState := StreamState.connected } :
              AuthSession).sendLogin.1 },
          Seen.linked :: ({ a with currentState := StreamState.connected } :
            AuthSession).sendLogin.2.map Seen.delivered) :=
    if_pos hstate
  rw [hsend] at hhandle
  refine Recovers.step (l := (ProxyEvent.connected, _)) ⟨hhandle, ?_⟩ ?_ ?_
  · rintro ⟨heq, -⟩
    cases heq
  · intro message heq
    cases heq
  · exact recovers_loggingIn hforwards hquiet rfl rfl

theorem recovers_unconnected
    (hstate : a.currentState = StreamState.unconnected)
    (hlogin : a.pendingLogin = false) (hretry : a.recoTimer = true) :
    Recovers { authSession := some a } := by
  have hhandle : ({ authSession := some a } : GameServer).handle
      ProxyEvent.timerReconnect =
        some ({ authSession := some a.onTimerReconnect }, []) :=
    if_pos ⟨hretry, hstate⟩
  refine Recovers.step (l := (ProxyEvent.timerReconnect, _)) ⟨hhandle, ?_⟩
    (fun _ => nofun) ?_
  · rintro ⟨heq, -⟩
    cases heq
  · exact recovers_connecting hforwards hquiet rfl hlogin

theorem recovers_lost
    (hstate : a.currentState = StreamState.closing)
    (hcause : a.closeCausedByRemote = true) :
    Recovers { authSession := some a } := by
  have hhandle : ({ authSession := some a } : GameServer).handle
      ProxyEvent.disconnected =
        some ({ authSession := some a.onDisconnected }, []) :=
    if_pos hstate
  refine Recovers.step (l := (ProxyEvent.disconnected, _)) ⟨hhandle, ?_⟩
    (fun _ => nofun) ?_
  · rintro ⟨heq, -⟩
    cases heq
  · refine recovers_unconnected hforwards hquiet rfl rfl ?_
    rw [AuthSession.onDisconnected, hcause, Bool.true_or]

end Recovering

theorem Keeps.recovers {trace : List Seen} {a : AuthSession}
    (h : Keeps trace a) (hstays : ¬LoggedOut trace) :
    Recovers { authSession := some a } := by
  have hquiet : forall m, m ∈ a.pendingMessages -> ¬m.isLogout = true := by
    intro m hm hlogout
    exact hstays (Proxy.Keeps.loggedOut_of_owed h.ledger ⟨m, hm, hlogout⟩)
  cases h.phase with
  | connecting hstate hlogin _ =>
      exact recovers_connecting h.forwards hquiet hstate hlogin
  | loggingIn hstate hlogin _ =>
      exact recovers_loggingIn h.forwards hquiet hstate hlogin
  | synchronized hstate _ hsync _ =>
      exact ⟨[], _, a, Run.nil, fun l hl => absurd hl List.not_mem_nil, rfl,
        hstate, hsync⟩
  | lost hstate hcause =>
      exact recovers_lost h.forwards hquiet hstate hcause
  | closed _ _ _ hasked => exact absurd hasked hstays
  | unconnected hstate hlogin _ hretry =>
      rcases hretry with hretry | hasked
      · exact recovers_unconnected h.forwards hquiet hstate hlogin hretry
      · exact absurd hasked hstays

theorem onLoginResult_seen (s : GameServer) (success : Bool) :
    exists messages : List Outgoing, (s.onLoginResult success).2 =
      messages.map Seen.delivered := by
  rw [onLoginResult]
  split
  · exact ⟨[], rfl⟩
  · rename_i a hsession
    split
    · exact ⟨[], rfl⟩
    · split
      · rw [onSession_some hsession]
        exact ⟨_, rfl⟩
      · split
        · exact ⟨[], rfl⟩
        · exact ⟨[], rfl⟩

theorem sentSince_ofLink {s s' : GameServer}
    {l : ProxyEvent × List Seen} (hstep : Step s l s') (hlink : OfLink l)
    (trace : List Seen) : sentSince (trace ++ l.2) = sentSince trace := by
  rcases l with ⟨event, seen⟩
  have houtcome := hstep.outcome
  change Outcome s event s' seen at houtcome
  change sentSince (trace ++ seen) = sentSince trace
  cases houtcome with
  | gameMessage message => exact absurd rfl (hlink message)
  | connected hsession hstate =>
      rw [List.append_cons, sentSince_delivered, sentSince_snoc]
      rfl
  | linkLost hsession => rw [List.append_nil]
  | disconnected hsession hstate => rw [List.append_nil]
  | timerReconnect hsession hstate => rw [List.append_nil]
  | loginResult hsession hreceives success =>
      rcases onLoginResult_seen s success with ⟨messages, hmessages⟩
      rw [hmessages, sentSince_delivered]
  | clientLoggedIn hsession accountInfo => rw [List.append_nil]

theorem sentSince_run {s s' : GameServer}
    {later : List (ProxyEvent × List Seen)} (hrun : Run Step s later s')
    (hlink : forall l, l ∈ later -> OfLink l) (seen : List Seen) :
    sentSince (seen ++ trace later) = sentSince seen := by
  induction hrun with
  | nil =>
      change sentSince (seen ++ []) = sentSince seen
      rw [List.append_nil]
  | snoc before last ih =>
      rename_i later s s' l
      rw [trace_snoc, ← List.append_assoc, sentSince_ofLink last
        (hlink l (List.mem_append_right _ (List.mem_singleton_self l)))]
      exact ih fun l' hl' => hlink l' (List.mem_append_left _ hl')

/--
What was sent on the session is delivered, in order and once, or it waits; a
message is delivered behind an account list; and as long as the game server has
not asked to close the link, the link can come back and deliver all of it.
-/
structure Defers (history : List (ProxyEvent × List Seen))
    (s : GameServer) : Prop where
  behindList : Justified AfterAccountList (trace history)
  once : forall a, s.authSession = some a ->
    sentSince (trace history) = deliveredSince (trace history) ++
      a.pendingMessages.filterMap Outgoing.deferred?
  synchronized : forall a, s.authSession = some a ->
    a.isConnected = true -> a.synchronizedWithAuth = true ->
      deliveredSince (trace history) = sentSince (trace history)
  arrives : forall a, s.authSession = some a -> ¬LoggedOut (trace history) ->
    exists later s', Run QuietStep s later s' ∧
      (forall l, l ∈ later -> OfLink l) ∧
        deliveredSince (trace (history ++ later)) = sentSince (trace history)

theorem Keeps.synchronized {trace : List Seen} {a : AuthSession}
    (h : Keeps trace a) (hstate : a.currentState = StreamState.connected)
    (hsync : a.synchronizedWithAuth = true) :
    deliveredSince trace = sentSince trace := by
  have hempty := (h.phase.ready hstate hsync).right
  rw [h.ledger, hempty, List.filterMap_nil, List.append_nil]

/-- Whether a flush would close the link before its last message. -/
def closesEarly (s : GameServer) : Bool :=
  match s.authSession with
  | none => false
  | some a => a.pendingMessages.dropLast.any Outgoing.isLogout

def nextQuietStep (s : GameServer) (event : ProxyEvent) :
    Option ((ProxyEvent × List Seen) × GameServer) :=
  if s.closesEarly = true then none else nextStep s event

theorem nextQuietStep_step (s : GameServer) (event : ProxyEvent)
    (l : ProxyEvent × List Seen) (s' : GameServer)
    (h : nextQuietStep s event = some (l, s')) : QuietStep s l s' := by
  rw [nextQuietStep] at h
  split at h
  · cases h
  · rename_i hquiet
    refine ⟨nextStep_step s event l s' h, ?_⟩
    rintro ⟨-, a, ha, -, m, hm, hlogout⟩
    apply hquiet
    rw [closesEarly, ha]
    exact List.any_eq_true.mpr ⟨m, hm, hlogout⟩

/-- A message is sent while the link is down, and the link comes back. -/
def lostLinkEvents : List ProxyEvent :=
  [ProxyEvent.gameMessage GameMessage.login, ProxyEvent.connected,
    ProxyEvent.loginResult true, ProxyEvent.linkLost,
    ProxyEvent.gameMessage (GameMessage.other 1 [2]),
    ProxyEvent.disconnected, ProxyEvent.timerReconnect, ProxyEvent.connected,
    ProxyEvent.loginResult true]

/-- The messages sent in a whole run, whether or not there is a session. -/
def sentAll (trace : List Seen) : List GameMessage :=
  trace.filterMap fun o =>
    match o with
    | Seen.sent message => some message
    | _ => none

def deliveredAll (trace : List Seen) : List GameMessage :=
  trace.filterMap fun o =>
    match o with
    | Seen.delivered message => message.deferred?
    | _ => none

/-- A message before any login, and one before a login that is refused. -/
def refusedLoginEvents : List ProxyEvent :=
  [ProxyEvent.gameMessage (GameMessage.other 1 [1]),
    ProxyEvent.gameMessage GameMessage.login, ProxyEvent.connected,
    ProxyEvent.loginResult true, ProxyEvent.linkLost,
    ProxyEvent.disconnected,
    ProxyEvent.gameMessage (GameMessage.other 1 [2]),
    ProxyEvent.timerReconnect, ProxyEvent.connected,
    ProxyEvent.loginResult false,
    ProxyEvent.gameMessage GameMessage.login, ProxyEvent.connected,
    ProxyEvent.loginResult true]

end GameServer

end Proxy
end Rzu
