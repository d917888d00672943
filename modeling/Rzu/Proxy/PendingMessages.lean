import Rzu.Proxy.AuthSession

/-!
# Pending messages

The ledger of an auth session of the proxy: what the game server has sent on
it, what was delivered, and what waits; and how far the session itself is.
-/

namespace Rzu
namespace Proxy

open Auth Library Net

/-!
## What was sent and what was delivered
-/

/-- The messages sent on the current session, after one more observation. -/
def sentAfter (sent : List GameMessage) : Seen -> List GameMessage
  | Seen.attached => []
  | Seen.sent message => sent ++ [message]
  | _ => sent

def sentSince (trace : List Seen) : List GameMessage :=
  trace.foldl sentAfter []

def deliveredAfter (delivered : List GameMessage) :
    Seen -> List GameMessage
  | Seen.attached => []
  | Seen.delivered message => delivered ++ message.deferred?.toList
  | _ => delivered

def deliveredSince (trace : List Seen) : List GameMessage :=
  trace.foldl deliveredAfter []

/-- An account list was completed on the current link. -/
def Listed (trace : List Seen) : Prop :=
  exists before packet, packet.finalPacket = true ∧
    Since (fun o => o ≠ Seen.linked)
      (Seen.delivered (Outgoing.accountList packet)) before trace

/-- A message that may wait is delivered behind an account list only. -/
def AfterAccountList (before : List Seen) (o : Seen) : Prop :=
  forall message, o = Seen.delivered message ->
    message.deferred? ≠ none -> Listed before

/-- The game server asked to close the link. -/
def LoggedOut (trace : List Seen) : Prop :=
  exists message, message ∈ sentSince trace ∧
    (Outgoing.forward message).isLogout = true

theorem sentSince_snoc (trace : List Seen) (o : Seen) :
    sentSince (trace ++ [o]) = sentAfter (sentSince trace) o := by
  rw [sentSince, List.foldl_append]
  rfl

theorem deliveredSince_snoc (trace : List Seen) (o : Seen) :
    deliveredSince (trace ++ [o]) =
      deliveredAfter (deliveredSince trace) o := by
  rw [deliveredSince, List.foldl_append]
  rfl

theorem sentSince_delivered (trace : List Seen) (messages : List Outgoing) :
    sentSince (trace ++ messages.map Seen.delivered) = sentSince trace := by
  induction messages generalizing trace with
  | nil => rw [List.map_nil, List.append_nil]
  | cons message rest ih =>
      rw [List.map_cons, List.append_cons, ih, sentSince_snoc]
      rfl

theorem deliveredSince_delivered (trace : List Seen)
    (messages : List Outgoing) :
    deliveredSince (trace ++ messages.map Seen.delivered) =
      deliveredSince trace ++ messages.filterMap Outgoing.deferred? := by
  induction messages generalizing trace with
  | nil => rw [List.map_nil, List.append_nil, List.filterMap_nil,
      List.append_nil]
  | cons message rest ih =>
      rw [List.map_cons, List.append_cons, ih, deliveredSince_snoc,
        deliveredAfter, List.append_assoc]
      cases hdeferred : message.deferred? with
      | none => rw [List.filterMap_cons_none hdeferred]; rfl
      | some waiting => rw [List.filterMap_cons_some hdeferred]; rfl

theorem Listed.delivered {trace : List Seen} (h : Listed trace)
    (messages : List Outgoing) :
    Listed (trace ++ messages.map Seen.delivered) := by
  rcases h with ⟨before, packet, hfinal, hsince⟩
  refine ⟨before, packet, hfinal, hsince.append ?_⟩
  intro o ho
  rcases List.mem_map.mp ho with ⟨message, -, heq⟩
  subst heq
  exact nofun

theorem Listed.snoc {trace : List Seen} (h : Listed trace) {o : Seen}
    (ho : o ≠ Seen.linked) : Listed (trace ++ [o]) := by
  rcases h with ⟨before, packet, hfinal, hsince⟩
  refine ⟨before, packet, hfinal, hsince.append ?_⟩
  intro o' ho'
  rw [List.mem_singleton.mp ho']
  exact ho

theorem Listed.justified {trace : List Seen} (h : Listed trace)
    (hjustified : Justified AfterAccountList trace)
    (messages : List Outgoing) :
    Justified AfterAccountList
      (trace ++ messages.map Seen.delivered) := by
  induction messages generalizing trace with
  | nil =>
      rw [List.map_nil, List.append_nil]
      exact hjustified
  | cons message rest ih =>
      rw [List.map_cons, List.append_cons]
      exact ih (h.snoc nofun) (hjustified.snoc fun _ _ _ => h)

/-!
## Account lists end
-/

theorem sendRounds_final {max : Nat} {room rest : List AccountInfo}
    (hmax : rest ≠ [] -> 0 < max) :
    exists front last, sendRounds max room rest hmax = front ++ [last] ∧
      last.finalPacket = true := by
  fun_induction sendRounds max room rest hmax with
  | case1 room rest hmax ih =>
      by_cases hlater : rest.drop max = []
      · rw [dif_pos hlater]
        refine ⟨[], _, rfl, ?_⟩
        rw [roundPacket, hlater]
        rfl
      · rcases ih hlater with ⟨front, last, heq, hfinal⟩
        rw [dif_neg hlater, heq]
        exact ⟨_ :: front, last, rfl, hfinal⟩

theorem sendAccountList_final (accountList : List AccountInfo) :
    exists front last, Proxy.sendAccountList accountList = front ++ [last] ∧
      last.finalPacket = true :=
  sendRounds_final _

theorem Listed.of_sendAccountList (accountList : List AccountInfo)
    (trace : List Seen) :
    Listed (trace ++ ((Proxy.sendAccountList accountList).map
      Outgoing.accountList).map Seen.delivered) := by
  rcases sendAccountList_final accountList with ⟨front, last, heq, hfinal⟩
  refine ⟨trace ++ (front.map Outgoing.accountList).map Seen.delivered, last,
    hfinal, ?_⟩
  rw [heq, List.map_append, List.map_append, ← List.append_assoc]
  exact Since.now

/-!
## What the session does with a message
-/

namespace AuthSession

theorem isConnected_iff (a : AuthSession) :
    a.isConnected = true ↔ a.currentState = StreamState.connected :=
  beq_iff_eq

theorem written_connected {a : AuthSession}
    (h : a.currentState = StreamState.connected) (message : Outgoing) :
    a.written message = [message] := by
  rw [written, if_pos (a.isConnected_iff.mpr h)]

theorem close_open {a : AuthSession}
    (h : a.currentState = StreamState.connecting ∨
      a.currentState = StreamState.connected) (causedByRemote : Bool) :
    a.close causedByRemote =
      { a with
        currentState := StreamState.closing
        closeCausedByRemote := causedByRemote } := by
  rw [close, if_neg]
  intro hclosed
  rcases h with hstate | hstate
  · rw [hstate] at hclosed
    rcases hclosed with hclosed | hclosed <;> cases hclosed
  · rw [hstate] at hclosed
    rcases hclosed with hclosed | hclosed <;> cases hclosed

theorem close_closed {a : AuthSession}
    (h : a.currentState = StreamState.closing ∨
      a.currentState = StreamState.unconnected) (causedByRemote : Bool) :
    a.close causedByRemote = a := by
  rw [close, if_pos h]

theorem close_pendingMessages (a : AuthSession) (causedByRemote : Bool) :
    (a.close causedByRemote).pendingMessages = a.pendingMessages := by
  rw [close]
  split
  · rfl
  · rfl

theorem close_synchronizedWithAuth (a : AuthSession)
    (causedByRemote : Bool) :
    (a.close causedByRemote).synchronizedWithAuth =
      a.synchronizedWithAuth := by
  rw [close]
  split
  · rfl
  · rfl

theorem sendPacketToNetwork_logout (a : AuthSession)
    {message : GameMessage}
    (h : (Outgoing.forward message).isLogout = true) :
    a.sendPacketToNetwork (Outgoing.forward message) =
      (a.close false, a.written (Outgoing.forward message)) :=
  if_pos h

theorem sendPacketToNetwork_forward (a : AuthSession)
    {message : GameMessage}
    (h : ¬(Outgoing.forward message).isLogout = true) :
    a.sendPacketToNetwork (Outgoing.forward message) =
      (a, a.written (Outgoing.forward message)) :=
  if_neg h

theorem sendPacket_now {a : AuthSession}
    (hstate : a.currentState = StreamState.connected)
    (hsync : a.synchronizedWithAuth = true) (message : Outgoing) :
    a.sendPacket message = a.sendPacketToNetwork message :=
  if_pos ⟨a.isConnected_iff.mpr hstate, hsync⟩

theorem sendPacket_later {a : AuthSession}
    (h : ¬(a.currentState = StreamState.connected ∧
      a.synchronizedWithAuth = true)) (message : Outgoing) :
    a.sendPacket message =
      ({ a with pendingMessages := a.pendingMessages ++ [message] }, []) := by
  rw [sendPacket, if_neg]
  intro hready
  exact h ⟨a.isConnected_iff.mp hready.left, hready.right⟩

theorem sendEach_accountLists {a : AuthSession}
    (hstate : a.currentState = StreamState.connected)
    (hsync : a.synchronizedWithAuth = true) (packets : List AccountList) :
    a.sendEach sendPacket (packets.map Outgoing.accountList) =
      (a, packets.map Outgoing.accountList) := by
  induction packets with
  | nil => rfl
  | cons packet rest ih =>
      have hfirst : a.sendPacket (Outgoing.accountList packet) =
          (a, [Outgoing.accountList packet]) := by
        rw [sendPacket_now hstate hsync, ← written_connected hstate]
        rfl
      rw [List.map_cons, sendEach, hfirst, ih]
      rfl

theorem sendEach_pending {a : AuthSession}
    (hstate : a.currentState = StreamState.connected)
    {pending : List Outgoing}
    (hforwards : forall m, m ∈ pending ->
      exists message, m = Outgoing.forward message)
    (hquiet : forall m, m ∈ pending.dropLast -> ¬m.isLogout = true) :
    exists a', a.sendEach sendPacketToNetwork pending = (a', pending) ∧
      (a' = a ∨ (a' = a.close false ∧
        exists m, m ∈ pending ∧ m.isLogout = true)) := by
  induction pending with
  | nil => exact ⟨a, rfl, Or.inl rfl⟩
  | cons m rest ih =>
      rcases hforwards m List.mem_cons_self with ⟨message, hm⟩
      have hwritten := written_connected hstate (Outgoing.forward message)
      by_cases hlast : rest = []
      · subst hlast
        by_cases hlogout : m.isLogout = true
        · refine ⟨a.close false, ?_, Or.inr ⟨rfl, m, List.mem_cons_self,
            hlogout⟩⟩
          subst hm
          rw [sendEach, sendPacketToNetwork_logout a hlogout, hwritten]
          rfl
        · refine ⟨a, ?_, Or.inl rfl⟩
          subst hm
          rw [sendEach, sendPacketToNetwork_forward a hlogout, hwritten]
          rfl
      · rw [List.dropLast_cons_of_ne_nil hlast] at hquiet
        have hlogout := hquiet m List.mem_cons_self
        rcases ih (fun m hm => hforwards m (List.mem_cons_of_mem _ hm))
          (fun m hm => hquiet m (List.mem_cons_of_mem _ hm)) with
          ⟨a', hrest, hcases⟩
        refine ⟨a', ?_, ?_⟩
        · subst hm
          rw [sendEach, sendPacketToNetwork_forward a hlogout, hwritten, hrest]
          rfl
        · rcases hcases with hsame | ⟨hclosed, m', hm', hlogout'⟩
          · exact Or.inl hsame
          · exact Or.inr ⟨hclosed, m', List.mem_cons_of_mem _ hm', hlogout'⟩

def synchronizing (a : AuthSession) : AuthSession :=
  { a with
    pendingLogin := false
    synchronizedWithAuth := true }

theorem sendAccountList_connected {a : AuthSession}
    (hstate : a.currentState = StreamState.connected)
    (hforwards : forall m, m ∈ a.pendingMessages ->
      exists message, m = Outgoing.forward message)
    (hquiet : forall m, m ∈ a.pendingMessages.dropLast ->
      ¬m.isLogout = true) :
    exists a', ({ a with pendingLogin := false } :
        AuthSession).sendAccountList =
          ({ a' with pendingMessages := [] },
            (Proxy.sendAccountList a.accountList).map Outgoing.accountList ++
              a.pendingMessages) ∧
      (a' = a.synchronizing ∨ (a' = a.synchronizing.close false ∧
        exists m, m ∈ a.pendingMessages ∧ m.isLogout = true)) := by
  rcases sendEach_pending (a := a.synchronizing) hstate hforwards hquiet with
    ⟨a', hflush, hcases⟩
  refine ⟨a', ?_, hcases⟩
  have hlists := sendEach_accountLists (a := a.synchronizing) hstate rfl
    (Proxy.sendAccountList a.accountList)
  change ((a.synchronizing.sendEach sendPacket
      ((Proxy.sendAccountList a.accountList).map
        Outgoing.accountList)).1.sendPendingMessages.1,
    (a.synchronizing.sendEach sendPacket
      ((Proxy.sendAccountList a.accountList).map Outgoing.accountList)).2 ++
      (a.synchronizing.sendEach sendPacket
        ((Proxy.sendAccountList a.accountList).map
          Outgoing.accountList)).1.sendPendingMessages.2) = _
  rw [hlists]
  change (({ (a.synchronizing.sendEach sendPacketToNetwork
      a.pendingMessages).1 with pendingMessages := [] } : AuthSession), _ ++
      (a.synchronizing.sendEach sendPacketToNetwork a.pendingMessages).2) = _
  rw [hflush]

end AuthSession

/-!
## How far a session is
-/

/-- The states of a session, with what holds of its flags in each of them. -/
inductive Phase (loggedOut : Prop) (a : AuthSession) : Prop where
  | connecting (hstate : a.currentState = StreamState.connecting)
      (hlogin : a.pendingLogin = false)
      (hsync : a.synchronizedWithAuth = false)
  | loggingIn (hstate : a.currentState = StreamState.connected)
      (hlogin : a.pendingLogin = true)
      (hsync : a.synchronizedWithAuth = false)
  | synchronized (hstate : a.currentState = StreamState.connected)
      (hlogin : a.pendingLogin = false)
      (hsync : a.synchronizedWithAuth = true)
      (hpending : a.pendingMessages = [])
  | lost (hstate : a.currentState = StreamState.closing)
      (hcause : a.closeCausedByRemote = true)
  | closed (hstate : a.currentState = StreamState.closing)
      (hcause : a.closeCausedByRemote = false)
      (hlogin : a.pendingLogin = false) (hasked : loggedOut)
  | unconnected (hstate : a.currentState = StreamState.unconnected)
      (hlogin : a.pendingLogin = false)
      (hsync : a.synchronizedWithAuth = false)
      (hretry : a.recoTimer = true ∨ loggedOut)

/-- What was sent is delivered or waits, behind an account list. -/
structure Keeps (trace : List Seen) (a : AuthSession) : Prop where
  phase : Phase (LoggedOut trace) a
  forwards : forall m, m ∈ a.pendingMessages ->
    exists message, m = Outgoing.forward message
  ledger : sentSince trace =
    deliveredSince trace ++ a.pendingMessages.filterMap Outgoing.deferred?
  listed : a.synchronizedWithAuth = true -> Listed trace

namespace Phase

variable {loggedOut loggedOut' : Prop} {a : AuthSession}

theorem ready (h : Phase loggedOut a)
    (hstate : a.currentState = StreamState.connected)
    (hsync : a.synchronizedWithAuth = true) :
    a.pendingLogin = false ∧ a.pendingMessages = [] := by
  cases h with
  | connecting hstate' _ _ => cases hstate.symm.trans hstate'
  | loggingIn _ _ hsync' => cases hsync.symm.trans hsync'
  | synchronized _ hlogin _ hpending => exact ⟨hlogin, hpending⟩
  | lost hstate' _ => cases hstate.symm.trans hstate'
  | closed hstate' _ _ _ => cases hstate.symm.trans hstate'
  | unconnected hstate' _ _ _ => cases hstate.symm.trans hstate'

theorem carry (h : Phase loggedOut a) (himp : loggedOut -> loggedOut')
    (accountList : List AccountInfo) {messages : List Outgoing}
    (hmessages : a.currentState = StreamState.connected ->
      a.synchronizedWithAuth = true -> messages = []) :
    Phase loggedOut' { a with
      accountList := accountList
      pendingMessages := messages } := by
  cases h with
  | connecting hstate hlogin hsync =>
      exact connecting hstate hlogin hsync
  | loggingIn hstate hlogin hsync => exact loggingIn hstate hlogin hsync
  | synchronized hstate hlogin hsync _ =>
      exact synchronized hstate hlogin hsync (hmessages hstate hsync)
  | lost hstate hcause => exact lost hstate hcause
  | closed hstate hcause hlogin hasked =>
      exact closed hstate hcause hlogin (himp hasked)
  | unconnected hstate hlogin hsync hretry =>
      exact unconnected hstate hlogin hsync (hretry.imp_right himp)

theorem mono (himp : loggedOut -> loggedOut') (h : Phase loggedOut a) :
    Phase loggedOut' a :=
  h.carry himp a.accountList fun hstate hsync => (h.ready hstate hsync).right

theorem waits (h : Phase loggedOut a)
    (hready : ¬(a.currentState = StreamState.connected ∧
      a.synchronizedWithAuth = true)) (messages : List Outgoing) :
    Phase loggedOut { a with pendingMessages := messages } :=
  h.carry (fun hasked => hasked) a.accountList fun hstate hsync =>
    absurd ⟨hstate, hsync⟩ hready

theorem accounts (h : Phase loggedOut a) (accountList : List AccountInfo) :
    Phase loggedOut { a with accountList := accountList } :=
  h.carry (fun hasked => hasked) accountList fun hstate hsync =>
    (h.ready hstate hsync).right

theorem linkLost (h : Phase loggedOut a) :
    Phase loggedOut (a.close true) := by
  cases h with
  | connecting hstate _ _ =>
      rw [AuthSession.close_open (Or.inl hstate)]
      exact lost rfl rfl
  | loggingIn hstate _ _ =>
      rw [AuthSession.close_open (Or.inr hstate)]
      exact lost rfl rfl
  | synchronized hstate _ _ _ =>
      rw [AuthSession.close_open (Or.inr hstate)]
      exact lost rfl rfl
  | lost hstate hcause =>
      rw [AuthSession.close_closed (Or.inl hstate)]
      exact lost hstate hcause
  | closed hstate hcause hlogin hasked =>
      rw [AuthSession.close_closed (Or.inl hstate)]
      exact closed hstate hcause hlogin hasked
  | unconnected hstate hlogin hsync hretry =>
      rw [AuthSession.close_closed (Or.inr hstate)]
      exact unconnected hstate hlogin hsync hretry

theorem onDisconnected (h : Phase loggedOut a)
    (hstate : a.currentState = StreamState.closing) :
    Phase loggedOut a.onDisconnected := by
  cases h with
  | connecting hstate' _ _ => cases hstate.symm.trans hstate'
  | loggingIn hstate' _ _ => cases hstate.symm.trans hstate'
  | synchronized hstate' _ _ _ => cases hstate.symm.trans hstate'
  | lost _ hcause =>
      refine unconnected rfl rfl rfl (Or.inl ?_)
      rw [AuthSession.onDisconnected, hcause, Bool.true_or]
  | closed _ _ _ hasked => exact unconnected rfl rfl rfl (Or.inr hasked)
  | unconnected hstate' _ _ _ => cases hstate.symm.trans hstate'

theorem onTimerReconnect (h : Phase loggedOut a)
    (hstate : a.currentState = StreamState.unconnected) :
    Phase loggedOut a.onTimerReconnect := by
  cases h with
  | connecting hstate' _ _ => cases hstate.symm.trans hstate'
  | loggingIn hstate' _ _ => cases hstate.symm.trans hstate'
  | synchronized hstate' _ _ _ => cases hstate.symm.trans hstate'
  | lost hstate' _ => cases hstate.symm.trans hstate'
  | closed hstate' _ _ _ => cases hstate.symm.trans hstate'
  | unconnected _ hlogin hsync _ => exact connecting rfl hlogin hsync

theorem onConnected (h : Phase loggedOut a)
    (hstate : a.currentState = StreamState.connecting) :
    ({ a with currentState := StreamState.connected } :
        AuthSession).sendLogin =
      ({ a with
        currentState := StreamState.connected
        pendingLogin := true
        sentLoginPacket := true }, [Outgoing.login]) ∧
      a.synchronizedWithAuth = false := by
  cases h with
  | connecting _ hlogin hsync =>
      refine ⟨?_, hsync⟩
      rw [AuthSession.sendLogin, if_neg (by rw [hlogin]; exact nofun)]
      rfl
  | loggingIn hstate' _ _ => cases hstate.symm.trans hstate'
  | synchronized hstate' _ _ _ => cases hstate.symm.trans hstate'
  | lost hstate' _ => cases hstate.symm.trans hstate'
  | closed hstate' _ _ _ => cases hstate.symm.trans hstate'
  | unconnected hstate' _ _ _ => cases hstate.symm.trans hstate'

theorem loginResult (h : Phase loggedOut a)
    (hreceives : GameServer.receives a = true)
    (hlogin : a.pendingLogin = true) :
    a.currentState = StreamState.connected ∧
      a.synchronizedWithAuth = false := by
  cases h with
  | connecting _ hlogin' _ => cases hlogin.symm.trans hlogin'
  | loggingIn hstate _ hsync => exact ⟨hstate, hsync⟩
  | synchronized _ hlogin' _ _ => cases hlogin.symm.trans hlogin'
  | lost hstate hcause =>
      rw [GameServer.receives, AuthSession.isConnected, hstate, hcause]
        at hreceives
      cases hreceives
  | closed _ _ hlogin' _ => cases hlogin.symm.trans hlogin'
  | unconnected _ hlogin' _ _ => cases hlogin.symm.trans hlogin'

end Phase

namespace Keeps

variable {trace : List Seen} {a : AuthSession}

theorem settled {messages : List Outgoing}
    (h : sentSince trace =
      deliveredSince trace ++ messages.filterMap Outgoing.deferred?) :
    sentSince (trace ++ messages.map Seen.delivered) =
      deliveredSince (trace ++ messages.map Seen.delivered) := by
  rw [sentSince_delivered, deliveredSince_delivered]
  exact h

theorem loggedOut_of_owed {messages : List Outgoing}
    (h : sentSince trace =
      deliveredSince trace ++ messages.filterMap Outgoing.deferred?)
    (hlogout : exists m, m ∈ messages ∧ m.isLogout = true) :
    LoggedOut trace := by
  rcases hlogout with ⟨m, hm, hlogout⟩
  cases m with
  | login => cases hlogout
  | accountList packet => cases hlogout
  | forward message =>
      refine ⟨message, ?_, hlogout⟩
      rw [h]
      apply List.mem_append_right
      refine List.mem_filterMap.mpr ⟨_, hm, ?_⟩
      cases message with
      | login => cases hlogout
      | clientLogin body => cases hlogout
      | clientLogout account body => cases hlogout
      | other id body => rfl

theorem loggedOut_delivered (messages : List Outgoing)
    (h : LoggedOut trace) :
    LoggedOut (trace ++ messages.map Seen.delivered) := by
  rw [LoggedOut, sentSince_delivered]
  exact h

theorem sendPacket {message : GameMessage}
    (hphase : Phase (LoggedOut trace) a)
    (hforwards : forall m, m ∈ a.pendingMessages ->
      exists message, m = Outgoing.forward message)
    (howed : sentSince trace = deliveredSince trace ++
      (a.pendingMessages ++ [Outgoing.forward message]).filterMap
        Outgoing.deferred?)
    (hlisted : a.synchronizedWithAuth = true -> Listed trace) :
    Keeps (trace ++
        (a.sendPacket (Outgoing.forward message)).2.map Seen.delivered)
      (a.sendPacket (Outgoing.forward message)).1 := by
  by_cases hready : a.currentState = StreamState.connected ∧
      a.synchronizedWithAuth = true
  · rcases hready with ⟨hstate, hsync⟩
    rcases hphase.ready hstate hsync with ⟨hlogin, hempty⟩
    rw [hempty, List.nil_append] at howed
    have hwritten :=
      AuthSession.written_connected hstate (Outgoing.forward message)
    have hsettled := settled howed
    have hstill := (hlisted hsync).delivered [Outgoing.forward message]
    rw [AuthSession.sendPacket_now hstate hsync]
    by_cases hlogout : (Outgoing.forward message).isLogout = true
    · rw [AuthSession.sendPacketToNetwork_logout a hlogout, hwritten,
        AuthSession.close_open (Or.inr hstate)]
      have hasked := loggedOut_of_owed howed
        ⟨_, List.mem_singleton_self _, hlogout⟩
      refine ⟨Phase.closed rfl rfl hlogin
        (loggedOut_delivered _ hasked), hforwards, ?_, fun _ => hstill⟩
      rw [hempty, hsettled, List.filterMap_nil, List.append_nil]
    · rw [AuthSession.sendPacketToNetwork_forward a hlogout, hwritten]
      refine ⟨Phase.synchronized hstate hlogin hsync hempty, hforwards, ?_,
        fun _ => hstill⟩
      rw [hempty, hsettled, List.filterMap_nil, List.append_nil]
  · rw [AuthSession.sendPacket_later hready, List.map_nil, List.append_nil]
    refine ⟨hphase.waits hready _, ?_, howed, hlisted⟩
    intro m hm
    rcases List.mem_append.mp hm with hold | hnew
    · exact hforwards m hold
    · exact ⟨message, List.mem_singleton.mp hnew⟩

theorem sendPacket_justified (h : a.synchronizedWithAuth = true ->
      Listed trace) (hjustified : Justified AfterAccountList trace)
    (message : Outgoing) :
    Justified AfterAccountList
      (trace ++ (a.sendPacket message).2.map Seen.delivered) := by
  by_cases hready : a.currentState = StreamState.connected ∧
      a.synchronizedWithAuth = true
  · exact (h hready.right).justified hjustified _
  · rw [AuthSession.sendPacket_later hready, List.map_nil, List.append_nil]
    exact hjustified

theorem accountLists_deferred (packets : List AccountList) :
    (packets.map Outgoing.accountList).filterMap Outgoing.deferred? = [] := by
  rw [List.filterMap_map]
  exact List.filterMap_eq_nil_iff.mpr fun _ _ => rfl

theorem sendAccountList (h : Keeps trace a)
    (hstate : a.currentState = StreamState.connected)
    (hquiet : forall m, m ∈ a.pendingMessages.dropLast ->
      ¬m.isLogout = true) :
    Keeps (trace ++ ({ a with pendingLogin := false } :
        AuthSession).sendAccountList.2.map Seen.delivered)
      ({ a with pendingLogin := false } : AuthSession).sendAccountList.1 := by
  rcases AuthSession.sendAccountList_connected hstate h.forwards hquiet with
    ⟨a', heq, hcases⟩
  have howed : sentSince trace = deliveredSince trace ++
      ((Proxy.sendAccountList a.accountList).map Outgoing.accountList ++
        a.pendingMessages).filterMap Outgoing.deferred? := by
    rw [List.filterMap_append, accountLists_deferred, List.nil_append]
    exact h.ledger
  have hlisted : Listed (trace ++
      ((Proxy.sendAccountList a.accountList).map Outgoing.accountList ++
        a.pendingMessages).map Seen.delivered) := by
    rw [List.map_append, ← List.append_assoc]
    exact (Listed.of_sendAccountList a.accountList trace).delivered _
  rw [heq]
  refine ⟨?_, nofun, ?_, fun _ => hlisted⟩
  · rcases hcases with hsame | ⟨hclosed, m, hm, hlogout⟩
    · subst hsame
      exact Phase.synchronized hstate rfl rfl rfl
    · rw [AuthSession.close_open (a := a.synchronizing) (Or.inr hstate)]
        at hclosed
      subst hclosed
      have hasked := loggedOut_of_owed howed
        ⟨m, List.mem_append_right _ hm, hlogout⟩
      exact Phase.closed rfl rfl rfl (loggedOut_delivered _ hasked)
  · rw [settled howed, List.filterMap_nil, List.append_nil]

theorem sendAccountList_justified (h : Keeps trace a)
    (hstate : a.currentState = StreamState.connected)
    (hquiet : forall m, m ∈ a.pendingMessages.dropLast ->
      ¬m.isLogout = true)
    (hjustified : Justified AfterAccountList trace) :
    Justified AfterAccountList (trace ++ ({ a with pendingLogin := false } :
        AuthSession).sendAccountList.2.map Seen.delivered) := by
  rcases AuthSession.sendAccountList_connected hstate h.forwards hquiet with
    ⟨a', heq, -⟩
  rw [heq, List.map_append, ← List.append_assoc]
  apply (Listed.of_sendAccountList a.accountList trace).justified
  apply hjustified.append
  intro before o ho message hmessage hdeferred
  subst hmessage
  rcases List.mem_map.mp ho with ⟨m, hm, heq⟩
  rcases List.mem_map.mp hm with ⟨packet, -, hpacket⟩
  cases heq
  subst hpacket
  exact absurd rfl hdeferred

theorem unowed (h : Keeps trace a) {message : GameMessage}
    (hmessage : message.deferrable = false) :
    sentSince trace = deliveredSince trace ++
      (a.pendingMessages ++ [Outgoing.forward message]).filterMap
        Outgoing.deferred? := by
  have hnone : (Outgoing.forward message).deferred? = none := by
    rw [Outgoing.deferred?, hmessage]
    rfl
  rw [List.filterMap_append, List.filterMap_cons_none hnone,
    List.filterMap_nil, List.append_nil]
  exact h.ledger

end Keeps

end Proxy
end Rzu
