import Rzu.Library.Run
import Rzu.Server.Bans

/-!
# Session servers

Servers that share one manager of bans.  Each keeps the sessions it accepted
with the address they came from, and tells the manager when one is closed.
-/

namespace Rzu
namespace Server

open Library

/-- An entry of `SessionServerCommon::sockets`, and whose it is. -/
structure Socket where
  session : Nat
  server : Nat
  address : StreamAddress
deriving DecidableEq

structure SessionServers where
  openServer : Nat -> Bool
  sockets : List Socket
  banManager : BanManager

inductive ServerEvent where
  | start (server : Nat) (config : BanConfig) (file : Option (List UInt8))
  | stop (server : Nat)
  | newConnection (server session : Nat) (remoteAddress : StreamAddress)
  | socketClosed (session : Nat)
  | banIp (ip : StreamAddress)
  | dayExpired
deriving DecidableEq

namespace SessionServers

def create (config : BanConfig) : SessionServers where
  openServer := fun _ => false
  sockets := []
  banManager := BanManager.create config

/-- `SessionServerCommon::start` of a server that is not started. -/
def start (inet : Inet) (s : SessionServers) (server : Nat)
    (config : BanConfig) (file : Option (List UInt8)) : SessionServers :=
  { s with
    openServer := Function.update s.openServer server true
    banManager := s.banManager.loadFile inet config file }

/-- `stop`; the sessions are closed later, one by one. -/
def stop (s : SessionServers) (server : Nat) : SessionServers :=
  { s with openServer := Function.update s.openServer server false }

/-- `onNewConnection`, with the session that is created if it is accepted. -/
def onNewConnection (s : SessionServers) (server session : Nat)
    (remoteAddress : StreamAddress) : SessionServers :=
  if s.openServer server = false then
    s
  else
    match s.banManager.checkAcceptNewClient remoteAddress with
    | (true, banManager) =>
        { s with
          sockets :=
            { session := session, server := server, address := remoteAddress }
              :: s.sockets
          banManager := banManager }
    | (false, banManager) => { s with banManager := banManager }

/-- `socketClosed` -/
def socketClosed (s : SessionServers) (session : Nat) : SessionServers :=
  match s.sockets.find? fun socket => socket.session == session with
  | none => s
  | some socket =>
      { s with
        sockets := s.sockets.eraseP fun socket => socket.session == session
        banManager := s.banManager.closedClient socket.address }

def handle (inet : Inet) (s : SessionServers) : ServerEvent -> SessionServers
  | .start server config file => s.start inet server config file
  | .stop server => s.stop server
  | .newConnection server session remoteAddress =>
      s.onNewConnection server session remoteAddress
  | .socketClosed session => s.socketClosed session
  | .banIp ip => { s with banManager := s.banManager.banIp ip }
  | .dayExpired => { s with banManager := s.banManager.onTimerExpire }

/-- A session that is created is none of those that are there. -/
def Enabled (s : SessionServers) : ServerEvent -> Prop
  | .newConnection _ session _ =>
      forall socket, socket ∈ s.sockets -> socket.session ≠ session
  | _ => True

def Step (inet : Inet) (s : SessionServers) (e : ServerEvent)
    (s' : SessionServers) : Prop :=
  s.Enabled e ∧ s' = s.handle inet e

theorem step_deterministic (inet : Inet) : Deterministic (Step inet) := by
  intro s e s' s'' h h'
  rw [h.right, h'.right]

/-!
## Counting sessions
-/

def openSessions (s : SessionServers) (host : Host) : Nat :=
  s.sockets.countP fun socket => socket.address.host == host

/-- The counter of each host is the number of its open sessions. -/
def Counted (s : SessionServers) : Prop :=
  forall host, (s.banManager.counts host).connectedClients =
    s.openSessions host

/-- Whether a new connection becomes a session. -/
def Accepts (s : SessionServers) (server : Nat) (ip : StreamAddress) : Prop :=
  s.openServer server = true ∧ (s.banManager.checkAcceptNewClient ip).1 = true

/--
A step after which the counters are right and not negative.  If it accepts a
connection under a limit, fewer sessions than that were open.
-/
structure WellCounted (s : SessionServers) (e : ServerEvent)
    (s' : SessionServers) : Prop where
  counted : s'.Counted
  nonneg : forall host, 0 ≤ (s'.banManager.counts host).connectedClients
  fewer : forall server session ip, e = .newConnection server session ip ->
    s.Accepts server ip -> s.banManager.maxClientPerIp ≠ 0 ->
      (s.openSessions ip.host : Int) < s.banManager.maxClientPerIp

/--
A connection of a host that is not banned reaches an open server while there
is no limit at all, or while the limit of sessions is negative and the one of
connections not reached.
-/
def Unlimited (s : SessionServers) : ServerEvent -> Prop
  | .newConnection server _ ip =>
      s.openServer server = true ∧
      ({ host := ip.host, port := 0 } : Endpoint) ∉ s.banManager.bannedIps ∧
      ((s.banManager.maxConnectionPerDayPerIp = 0 ∧
          s.banManager.maxClientPerIp = 0) ∨
        (s.banManager.maxClientPerIp < 0 ∧
          (s.banManager.maxConnectionPerDayPerIp ≤ 0 ∨
            (s.banManager.counts ip.host).connectionThisDay <
              s.banManager.maxConnectionPerDayPerIp)))
  | _ => False

variable {inet : Inet} {s s' : SessionServers} {server session : Nat}
variable {ip : StreamAddress}

theorem onNewConnection_closed (h : s.openServer server = false) :
    s.onNewConnection server session ip = s := by
  rw [onNewConnection, if_pos h]

theorem onNewConnection_refused (hopen : s.openServer server = true)
    {banManager : BanManager}
    (h : s.banManager.checkAcceptNewClient ip = (false, banManager)) :
    s.onNewConnection server session ip =
      { s with banManager := banManager } := by
  rw [onNewConnection, if_neg (by simp [hopen]), h]

theorem onNewConnection_accepted (hopen : s.openServer server = true)
    {banManager : BanManager}
    (h : s.banManager.checkAcceptNewClient ip = (true, banManager)) :
    s.onNewConnection server session ip =
      { s with
        sockets :=
          { session := session, server := server, address := ip } :: s.sockets
        banManager := banManager } := by
  rw [onNewConnection, if_neg (by simp [hopen]), h]

theorem counts_setIpData (m : BanManager) (changed : Host) (data : IpData)
    (host : Host) :
    (m.setIpData { host := changed, port := 0 } data).counts host =
      if host = changed then data else m.counts host := by
  split
  · rename_i heq
    subst heq
    exact m.ipData_setIpData_self _ data
  · rename_i hne
    exact m.ipData_setIpData_ne data fun heq =>
      hne (congrArg Endpoint.host heq)

theorem Counted.congr (h : s.Counted) (hsockets : s'.sockets = s.sockets)
    (hcounts : forall host,
      (s'.banManager.counts host).connectedClients =
        (s.banManager.counts host).connectedClients) : s'.Counted := by
  intro host
  rw [hcounts, h host, openSessions, openSessions, hsockets]

theorem counts_of_refused {m banManager : BanManager}
    (h : m.checkAcceptNewClient ip = (false, banManager)) (host : Host) :
    (banManager.counts host).connectedClients =
      (m.counts host).connectedClients := by
  have hcheck := m.checkAcceptNewClient_check ip
  rw [h] at hcheck
  cases hcheck with
  | banned hbanned => rfl
  | tooMany hfree hlimit hday =>
      change ((m.setIpData { host := ip.host, port := 0 }
        (m.counts ip.host)).counts host).connectedClients = _
      rw [counts_setIpData]
      split
      · rename_i heq
        rw [heq]
      · rfl
  | full hfree hlimit hclients =>
      rw [counts_setIpData]
      split
      · rename_i heq
        rw [heq]
      · rfl

theorem openSessions_cons (socket : Socket) (host : Host) :
    openSessions { s with sockets := socket :: s.sockets } host =
      s.openSessions host + if socket.address.host = host then 1 else 0 := by
  rw [openSessions, List.countP_cons, openSessions]
  simp only [beq_iff_eq]

theorem countP_eraseP {sockets : List Socket} {socket : Socket}
    (hfound : sockets.find? (fun socket => socket.session == session) =
      some socket) (host : Host) :
    sockets.countP (fun socket => socket.address.host == host) =
      (sockets.eraseP fun socket => socket.session == session).countP
        (fun socket => socket.address.host == host) +
          if socket.address.host = host then 1 else 0 := by
  induction sockets with
  | nil => cases hfound
  | cons first rest ih =>
      rw [List.find?_cons] at hfound
      cases hfirst : first.session == session with
      | true =>
          rw [hfirst] at hfound
          cases hfound
          rw [List.eraseP_cons_of_pos
            (p := fun entry : Socket => entry.session == session) hfirst,
            List.countP_cons]
          simp only [beq_iff_eq]
      | false =>
          rw [hfirst] at hfound
          rw [List.eraseP_cons_of_neg
            (p := fun entry : Socket => entry.session == session) (by simp [hfirst]),
            List.countP_cons, List.countP_cons, ih hfound]
          lia

theorem counts_closedClient {m : BanManager}
    (hpos : 0 < (m.counts ip.host).connectedClients) (host : Host) :
    ((m.closedClient ip).counts host).connectedClients =
      (m.counts host).connectedClients - if ip.host = host then 1 else 0 := by
  rw [BanManager.closedClient]
  split
  · rename_i hnone
    rw [BanManager.counts, BanManager.ipData, hnone] at hpos
    exact absurd hpos (by decide)
  · rename_i data hdata
    have hcounts : m.counts ip.host = data := by
      rw [BanManager.counts, BanManager.ipData, hdata, Option.getD_some]
    rw [hcounts] at hpos
    rw [if_pos hpos, counts_setIpData]
    by_cases heq : ip.host = host
    · subst heq
      rw [if_pos rfl, if_pos rfl, hcounts]
    · rw [if_neg (Ne.symm heq), if_neg heq, Int.sub_zero]

theorem counted_socketClosed (h : s.Counted) :
    (s.socketClosed session).Counted := by
  rw [socketClosed]
  split
  · exact h
  · rename_i socket hfound
    intro host
    have hcount := countP_eraseP hfound
    have hpos :
        0 < (s.banManager.counts socket.address.host).connectedClients := by
      rw [h, openSessions, hcount, if_pos rfl]
      lia
    have hhost := h host
    rw [openSessions, hcount host] at hhost
    change ((s.banManager.closedClient socket.address).counts
      host).connectedClients = _
    rw [counts_closedClient hpos, hhost, openSessions]
    split
    · lia
    · lia

theorem counted_create (config : BanConfig) : (create config).Counted := by
  intro host
  rfl

theorem accepted_cases {m banManager : BanManager}
    (h : m.checkAcceptNewClient ip = (true, banManager)) :
    ({ host := ip.host, port := 0 } : Endpoint) ∉ m.bannedIps ∧
      ((banManager = m ∧ m.maxConnectionPerDayPerIp = 0 ∧
          m.maxClientPerIp = 0) ∨
        ((forall host, (banManager.counts host).connectedClients =
            (m.counts host).connectedClients +
              if ip.host = host then 1 else 0) ∧
          (m.maxConnectionPerDayPerIp ≠ 0 ∨ m.maxClientPerIp ≠ 0) ∧
          (m.maxConnectionPerDayPerIp ≤ 0 ∨
            (m.counts ip.host).connectionThisDay <
              m.maxConnectionPerDayPerIp) ∧
          (m.maxClientPerIp ≤ 0 ∨
            (m.counts ip.host).connectedClients < m.maxClientPerIp))) := by
  have hcheck := m.checkAcceptNewClient_check ip
  rw [h] at hcheck
  cases hcheck with
  | unlimited hfree hday hclients =>
      exact ⟨hfree, Or.inl ⟨rfl, hday, hclients⟩⟩
  | counted hfree hlimited hday hclients =>
      refine ⟨hfree, Or.inr ⟨?_, hlimited, hday, hclients⟩⟩
      intro host
      rw [counts_setIpData]
      by_cases heq : ip.host = host
      · rw [if_pos heq.symm, if_pos heq, heq]
      · rw [if_neg (Ne.symm heq), if_neg heq, Int.add_zero]

theorem counted_onNewConnection (h : s.Counted)
    (hlimited : ¬(s.openServer server = true ∧
      ({ host := ip.host, port := 0 } : Endpoint) ∉ s.banManager.bannedIps ∧
      s.banManager.maxConnectionPerDayPerIp = 0 ∧
      s.banManager.maxClientPerIp = 0)) :
    (s.onNewConnection server session ip).Counted := by
  cases hopen : s.openServer server with
  | false =>
      rw [onNewConnection_closed hopen]
      exact h
  | true =>
      rcases hcheck : s.banManager.checkAcceptNewClient ip with
        ⟨accepted, banManager⟩
      cases accepted with
      | false =>
          rw [onNewConnection_refused hopen hcheck]
          exact h.congr rfl (counts_of_refused hcheck)
      | true =>
          rw [onNewConnection_accepted hopen hcheck]
          rcases accepted_cases hcheck with
            ⟨hfree, ⟨-, hzero⟩ | ⟨hcounts, -⟩⟩
          · exact absurd ⟨hopen, hfree, hzero⟩ hlimited
          · intro host
            change (banManager.counts host).connectedClients = _
            rw [hcounts, h host]
            have hcons := openSessions_cons (s := s)
              { session := session, server := server, address := ip } host
            change _ = ((openSessions { s with
              sockets :=
                { session := session, server := server, address := ip } ::
                  s.sockets } host : Nat) : Int)
            rw [hcons]
            split
            · lia
            · lia

theorem handle_counted (h : s.Counted) {e : ServerEvent}
    (hlimited : ¬Unlimited s e) : (s.handle inet e).Counted := by
  cases e with
  | start server config file =>
      have hcounts : forall host,
          ((s.banManager.loadFile inet config file).counts host) =
            s.banManager.counts host := by
        intro host
        cases file with
        | none => rfl
        | some file => rfl
      exact h.congr rfl fun host =>
        congrArg IpData.connectedClients (hcounts host)
  | stop server => exact h.congr rfl fun _ => rfl
  | newConnection server session ip =>
      apply counted_onNewConnection h
      rintro ⟨hopen, hfree, hzero⟩
      exact hlimited ⟨hopen, hfree, Or.inl hzero⟩
  | socketClosed session => exact counted_socketClosed h
  | banIp ip => exact h.congr rfl fun _ => rfl
  | dayExpired =>
      have hcounts : forall host,
          (s.banManager.onTimerExpire.counts host).connectedClients =
            (s.banManager.counts host).connectedClients := by
        intro host
        rw [BanManager.counts, BanManager.ipData_onTimerExpire,
          BanManager.counts]
      exact h.congr rfl hcounts

theorem wellCounted_of_limited (h : s.Counted) {e : ServerEvent}
    (hstep : Step inet s e s') (hlimited : ¬Unlimited s e) :
    WellCounted s e s' := by
  have hcounted : s'.Counted := by
    rw [hstep.right]
    exact handle_counted h hlimited
  refine ⟨hcounted, ?_, ?_⟩
  · intro host
    rw [hcounted host]
    lia
  · intro server session ip heq haccepts hlimit
    subst heq
    rcases haccepts with ⟨hopen, haccepted⟩
    rcases hcheck : s.banManager.checkAcceptNewClient ip with
      ⟨accepted, banManager⟩
    rw [hcheck] at haccepted
    cases haccepted
    rcases accepted_cases hcheck with
      ⟨hfree, ⟨-, -, hzero⟩ | ⟨-, -, hday, hclients⟩⟩
    · exact absurd hzero hlimit
    · have hpos : 0 < s.banManager.maxClientPerIp := by
        by_contra hneg
        exact hlimited ⟨hopen, hfree, Or.inr ⟨by lia, hday⟩⟩
      rw [h ip.host] at hclients
      lia

theorem checkAcceptNewClient_unlimited {m : BanManager}
    (hfree : ({ host := ip.host, port := 0 } : Endpoint) ∉ m.bannedIps)
    (hday : m.maxConnectionPerDayPerIp = 0) (hclients : m.maxClientPerIp = 0) :
    m.checkAcceptNewClient ip = (true, m) := by
  rw [BanManager.checkAcceptNewClient]
  simp only
  rw [if_neg hfree, if_pos ⟨hday, hclients⟩]

theorem accepts_of_negative {m : BanManager}
    (hfree : ({ host := ip.host, port := 0 } : Endpoint) ∉ m.bannedIps)
    (hnegative : m.maxClientPerIp < 0)
    (hday : m.maxConnectionPerDayPerIp ≤ 0 ∨
      (m.counts ip.host).connectionThisDay < m.maxConnectionPerDayPerIp) :
    (m.checkAcceptNewClient ip).1 = true := by
  have hcheck := m.checkAcceptNewClient_check ip
  generalize m.checkAcceptNewClient ip = result at hcheck
  cases hcheck with
  | banned hbanned => exact absurd hbanned hfree
  | unlimited hfree hday hclients => rfl
  | tooMany hfree hlimit hmany => lia
  | full hfree hlimit hclients => lia
  | counted hfree hlimited hday hclients => rfl

theorem not_wellCounted_of_unlimited (h : s.Counted) {e : ServerEvent}
    (hstep : Step inet s e s') (hunlimited : Unlimited s e) :
    ¬WellCounted s e s' := by
  intro hwell
  cases e with
  | newConnection server session ip =>
      rcases hunlimited with ⟨hopen, hfree, hzero | ⟨hnegative, hday⟩⟩
      · have hcheck := checkAcceptNewClient_unlimited hfree hzero.left
          hzero.right
        have hcounted := hwell.counted ip.host
        rw [hstep.right, handle, onNewConnection_accepted hopen hcheck,
          openSessions_cons, if_pos rfl] at hcounted
        have hbefore := h ip.host
        change (s.banManager.counts ip.host).connectedClients = _ at hcounted
        lia
      · have hfewer := hwell.fewer server session ip rfl
          ⟨hopen, accepts_of_negative hfree hnegative hday⟩ (by lia)
        lia
  | start server config file => exact hunlimited
  | stop server => exact hunlimited
  | socketClosed session => exact hunlimited
  | banIp ip => exact hunlimited
  | dayExpired => exact hunlimited

/--
In a run of the servers, the counters of sessions are right after each step
and limits are kept, exactly if no connection arrives that has no limit.
-/
theorem wellCounted_iff_avoids_unlimited (inet : Inet) (config : BanConfig)
    {history : List ServerEvent}
    (hrun : Run (Step inet) (create config) history s) :
    AtEachStep (Step inet) (create config) WellCounted history ↔
      Avoids (Step inet) (create config) Unlimited history := by
  apply atEachStep_iff_avoids (step_deterministic inet)
    (counted_create config) _ _ _ hrun
  · intro s e s' h hstep hwell
    exact hwell.counted
  · intro s e s' h hstep hlimited
    exact wellCounted_of_limited h hstep hlimited
  · intro s e s' h hstep hunlimited
    exact not_wellCounted_of_unlimited h hstep hunlimited

theorem wellCounted_iff_avoids_unlimited_started :
    AtEachStep (Step BanManager.noInet) (create ⟨0, 2⟩) WellCounted
        [.start 1 ⟨0, 2⟩ none] ↔
      Avoids (Step BanManager.noInet) (create ⟨0, 2⟩) Unlimited
        [.start 1 ⟨0, 2⟩ none] :=
  wellCounted_iff_avoids_unlimited BanManager.noInet ⟨0, 2⟩
    (Run.snoc Run.nil ⟨trivial, rfl⟩)

/--
A session that was accepted while there was no limit is not counted once there
is one: the host gets one session too many.
-/
theorem not_wellCounted_reload :
    ¬forall (inet : Inet) (config : BanConfig) (history : List ServerEvent)
      (s : SessionServers), Run (Step inet) (create config) history s ->
        AtEachStep (Step inet) (create config) WellCounted history := by
  intro h
  let earlier : List ServerEvent :=
    [.start 1 ⟨0, 0⟩ none, .newConnection 1 7 (BanManager.loopback 4000),
      .start 2 ⟨0, 1⟩ none]
  let limited : SessionServers :=
    earlier.foldl (handle BanManager.noInet) (create ⟨0, 0⟩)
  have hlimited :
      Run (Step BanManager.noInet) (create ⟨0, 0⟩) earlier limited :=
    Run.snoc (Run.snoc (Run.snoc Run.nil ⟨trivial, rfl⟩)
      ⟨fun _ hsocket => absurd hsocket List.not_mem_nil, rfl⟩) ⟨trivial, rfl⟩
  have hfresh :
      limited.Enabled (.newConnection 1 8 (BanManager.loopback 4001)) := by
    intro socket hsocket
    rw [List.mem_singleton.mp hsocket]
    decide
  have hwell := h BanManager.noInet ⟨0, 0⟩ _ _
    (Run.snoc hlimited ⟨hfresh, rfl⟩) _ _ [] _ _ rfl hlimited ⟨hfresh, rfl⟩
  have hfewer := hwell.fewer 1 8 _ rfl ⟨rfl, by decide⟩ (by decide)
  revert hfewer
  decide

end SessionServers

end Server
end Rzu
