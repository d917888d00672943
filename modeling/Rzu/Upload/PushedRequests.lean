import Mathlib.Data.List.Induction
import Rzu.Library.Run
import Rzu.Upload.UploadServer

/-!
# Pushed and popped requests

A client that logs in gets a request exactly if it gives the values of the last
request that was pushed for it, unless an older one was still pending: then
only the one-time password is replaced.
-/

namespace Rzu
namespace Upload

open Auth (Addr CharString convertToString)
open Library

/-- The values of a request that a client has to know, besides its id. -/
structure Ticket where
  accountId : UInt32
  guildSid : UInt32
  oneTimePassword : UInt32
  gameServerName : CharString
deriving DecidableEq

inductive RequestCall where
  | push (gameServer : Addr) (packet : RequestUpload) (now : Int64)
  | pop (clientId : UInt32) (ticket : Ticket)
deriving DecidableEq

namespace UploadState

/-- Game servers that are connected before any request is pushed. -/
def serving (sessions : Addr -> Option GameServerSession) : UploadState :=
  { initial with gameSessions := sessions }

/-- `UploadRequest::popRequest`, with any name of a game server. -/
def popTicket (s : UploadState) (clientId : UInt32) (ticket : Ticket) :
    Option (UploadState × Option UploadRequest) :=
  match s.pendingRequests clientId with
  | none => some (s, none)
  | some request =>
      if request.accountId = ticket.accountId ∧
          request.guildSid = ticket.guildSid ∧
          request.oneTimePassword = ticket.oneTimePassword then do
        let gameServer <- s.gameSessions request.gameServer
        if gameServer.serverName = ticket.gameServerName then
          pure ({ s with
            pendingRequests :=
              Function.update s.pendingRequests clientId none },
            some request)
        else
          pure (s, none)
      else
        some (s, none)

/-- A call, and the request that it returns; only sessions push requests. -/
def callRequest (s : UploadState) :
    RequestCall -> Option (UploadState × Option UploadRequest)
  | RequestCall.push gameServer packet now => do
      let _ <- s.gameSessions gameServer
      pure (s.pushRequest gameServer packet now, none)
  | RequestCall.pop clientId ticket => s.popTicket clientId ticket

def RequestStep (s : UploadState) (l : RequestCall × Option UploadRequest)
    (s' : UploadState) : Prop :=
  s.callRequest l.1 = some (s', l.2)

end UploadState

section Tickets

variable (sessions : Addr -> Option GameServerSession)

def serverNameOf (gameServer : Addr) : CharString :=
  ((sessions gameServer).map GameServerSession.serverName).getD []

def UploadRequest.ticket (request : UploadRequest) : Ticket where
  accountId := request.accountId
  guildSid := request.guildSid
  oneTimePassword := request.oneTimePassword
  gameServerName := serverNameOf sessions request.gameServer

/-- What a client has to know of a request that is pushed. -/
def RequestUpload.ticket (packet : RequestUpload) (gameServer : Addr) :
    Ticket where
  accountId := packet.accountId
  guildSid := packet.guildSid
  oneTimePassword := packet.oneTimePassword
  gameServerName := serverNameOf sessions gameServer

/-- The last request pushed for each client id and not consumed since. -/
def afterCall (last : UInt32 -> Option Ticket) :
    RequestCall × Option UploadRequest -> UInt32 -> Option Ticket
  | (RequestCall.push gameServer packet _, _) =>
      Function.update last packet.clientId
        (some (packet.ticket sessions gameServer))
  | (RequestCall.pop clientId _, some _) => Function.update last clientId none
  | (RequestCall.pop _ _, none) => last

def lastPush (history : List (RequestCall × Option UploadRequest)) :
    UInt32 -> Option Ticket :=
  history.foldl (afterCall sessions) fun _ => none

theorem lastPush_snoc (history : List (RequestCall × Option UploadRequest))
    (l : RequestCall × Option UploadRequest) :
    lastPush sessions (history ++ [l]) =
      afterCall sessions (lastPush sessions history) l := by
  rw [lastPush, List.foldl_append]
  rfl

/-!
## What is claimed of a history
-/

/--
Whatever a client gives now, it gets a request exactly if these are the values
of the last request that was pushed for it and is not consumed.
-/
def Exact (history : List (RequestCall × Option UploadRequest))
    (s : UploadState) : Prop :=
  forall clientId ticket, exists s' request,
    s.popTicket clientId ticket = some (s', request) ∧
      (request.isSome = true ↔
        lastPush sessions history clientId = some ticket)

/-- Between two requests returned to a client id, one is pushed for it. -/
def ReturnedOnce (history : List (RequestCall × Option UploadRequest)) :
    Prop :=
  forall before between after clientId ticket ticket' request request',
    history = before ++ (RequestCall.pop clientId ticket, some request) ::
      (between ++
        (RequestCall.pop clientId ticket', some request') :: after) ->
      exists gameServer packet now result,
        (RequestCall.push gameServer packet now, result) ∈ between ∧
          packet.clientId = clientId

/-- Requests are returned as they were pushed, at any point of a history. -/
def ReturnsLastPushed
    (history : List (RequestCall × Option UploadRequest)) : Prop :=
  (forall before after s, history = before ++ after ->
    Run UploadState.RequestStep (UploadState.serving sessions) before s ->
      Exact sessions before s) ∧ ReturnedOnce history

/--
A request that is pushed while another one is pending for the client id has the
same account, guild and game server name.
-/
def Repeats (history : List (RequestCall × Option UploadRequest)) : Prop :=
  forall before gameServer packet now result after ticket,
    history = before ++
      (RequestCall.push gameServer packet now, result) :: after ->
    lastPush sessions before packet.clientId = some ticket ->
      ticket.accountId = packet.accountId ∧
        ticket.guildSid = packet.guildSid ∧
        ticket.gameServerName = serverNameOf sessions gameServer

end Tickets

/-!
## Pending requests
-/

section Pending

variable {sessions : Addr -> Option GameServerSession}
variable {history : List (RequestCall × Option UploadRequest)}
variable {s s' : UploadState}

/-- The game servers of the pending requests are still there. -/
structure Served (sessions : Addr -> Option GameServerSession)
    (s : UploadState) : Prop where
  same : s.gameSessions = sessions
  pending : forall clientId request,
    s.pendingRequests clientId = some request ->
      (sessions request.gameServer).isSome = true

theorem served_serving : Served sessions (UploadState.serving sessions) where
  same := rfl
  pending _ _ hrequest := by cases hrequest

theorem Served.popTicket_some (h : Served sessions s) {clientId : UInt32}
    {request : UploadRequest}
    (hrequest : s.pendingRequests clientId = some request)
    (ticket : Ticket) :
    s.popTicket clientId ticket =
      if request.ticket sessions = ticket then
        some ({ s with
          pendingRequests :=
            Function.update s.pendingRequests clientId none }, some request)
      else some (s, none) := by
  have hlive := h.pending clientId request hrequest
  rcases Option.isSome_iff_exists.mp hlive with ⟨session, hsession⟩
  have hname : serverNameOf sessions request.gameServer =
      session.serverName := by
    rw [serverNameOf, hsession]
    rfl
  have hticket : request.ticket sessions = ticket ↔
      (request.accountId = ticket.accountId ∧
        request.guildSid = ticket.guildSid ∧
        request.oneTimePassword = ticket.oneTimePassword) ∧
        session.serverName = ticket.gameServerName := by
    cases ticket
    simp [UploadRequest.ticket, hname, and_assoc]
  have hfound : s.gameSessions request.gameServer = some session := by
    rw [h.same]
    exact hsession
  rw [UploadState.popTicket, hrequest]
  simp only [hticket, hfound]
  split
  · rename_i hids
    rw [Option.bind_eq_bind, Option.bind_some]
    split
    · rename_i hserver
      rw [if_pos ⟨hids, hserver⟩]
      rfl
    · rename_i hserver
      rw [if_neg fun hboth => hserver hboth.right]
      rfl
  · rename_i hids
    rw [if_neg fun hboth => hids hboth.left]

theorem popTicket_none {clientId : UInt32}
    (hnone : s.pendingRequests clientId = none) (ticket : Ticket) :
    s.popTicket clientId ticket = some (s, none) := by
  rw [UploadState.popTicket, hnone]

def PendingMatches (sessions : Addr -> Option GameServerSession)
    (history : List (RequestCall × Option UploadRequest))
    (s : UploadState) : Prop :=
  forall clientId, (s.pendingRequests clientId).map
    (UploadRequest.ticket sessions) = lastPush sessions history clientId

theorem Served.exact_iff (h : Served sessions s) :
    Exact sessions history s ↔ PendingMatches sessions history s := by
  constructor
  · intro hexact clientId
    cases hrequest : s.pendingRequests clientId with
    | none =>
        rw [Option.map_none]
        cases hlast : lastPush sessions history clientId with
        | none => rfl
        | some ticket =>
            rcases hexact clientId ticket with ⟨s', result, hpop, hiff⟩
            rw [popTicket_none hrequest] at hpop
            cases hpop
            exact absurd (hiff.mpr hlast) (by simp)
    | some request =>
        rw [Option.map_some]
        rcases hexact clientId (request.ticket sessions) with
          ⟨s', result, hpop, hiff⟩
        rw [h.popTicket_some hrequest, if_pos rfl] at hpop
        cases hpop
        exact (hiff.mp rfl).symm
  · intro hmatches clientId ticket
    have hlast := hmatches clientId
    cases hrequest : s.pendingRequests clientId with
    | none =>
        rw [hrequest, Option.map_none] at hlast
        refine ⟨s, none, popTicket_none hrequest ticket, ?_⟩
        rw [← hlast]
        simp
    | some request =>
        rw [hrequest, Option.map_some] at hlast
        rw [h.popTicket_some hrequest, ← hlast, Option.some.injEq]
        split
        · rename_i heq
          exact ⟨_, _, rfl, fun _ => heq, fun _ => rfl⟩
        · rename_i hne
          refine ⟨_, _, rfl, ?_, fun heq => absurd heq hne⟩
          intro hsome
          cases hsome

/-!
## Steps
-/

theorem Served.step_cases (h : Served sessions s)
    {l : RequestCall × Option UploadRequest}
    (hstep : UploadState.RequestStep s l s') :
    (exists gameServer packet now, l = (RequestCall.push gameServer packet now,
        none) ∧ (sessions gameServer).isSome = true ∧
        s' = s.pushRequest gameServer packet now) ∨
    (exists clientId ticket, l = (RequestCall.pop clientId ticket, none) ∧
      s' = s) ∨
    exists clientId request, s.pendingRequests clientId = some request ∧
      l = (RequestCall.pop clientId (request.ticket sessions),
        some request) ∧
      s' = { s with
        pendingRequests := Function.update s.pendingRequests clientId none } := by
  rcases l with ⟨call, result⟩
  cases call with
  | push gameServer packet now =>
      rcases Option.bind_eq_some_iff.mp hstep with ⟨session, hsession, hpush⟩
      cases hpush
      rw [h.same] at hsession
      refine Or.inl ⟨gameServer, packet, now, rfl, ?_, rfl⟩
      rw [hsession]
      rfl
  | pop clientId ticket =>
      change s.popTicket clientId ticket = some (s', result) at hstep
      cases hrequest : s.pendingRequests clientId with
      | none =>
          rw [popTicket_none hrequest] at hstep
          cases hstep
          exact Or.inr (Or.inl ⟨clientId, ticket, rfl, rfl⟩)
      | some request =>
          rw [h.popTicket_some hrequest] at hstep
          split at hstep
          · rename_i heq
            cases hstep
            subst heq
            exact Or.inr (Or.inr ⟨clientId, request, hrequest, rfl, rfl⟩)
          · cases hstep
            exact Or.inr (Or.inl ⟨clientId, ticket, rfl, rfl⟩)

theorem pushRequest_pending (s : UploadState) (gameServer : Addr)
    (packet : RequestUpload) (now : Int64) (clientId : UInt32) :
    (s.pushRequest gameServer packet now).pendingRequests clientId =
      if clientId = packet.clientId then
        some (((s.pendingRequests packet.clientId).map fun oldRequest =>
          { oldRequest with
            oneTimePassword := packet.oneTimePassword
            timestamp := now }).getD
          { gameServer := gameServer
            clientId := packet.clientId
            accountId := packet.accountId
            guildSid := packet.guildSid
            oneTimePassword := packet.oneTimePassword
            timestamp := now })
      else s.pendingRequests clientId := by
  rw [UploadState.pushRequest]
  cases s.pendingRequests packet.clientId with
  | none => exact Function.update_apply _ _ _ _
  | some oldRequest => exact Function.update_apply _ _ _ _

theorem Served.step (h : Served sessions s)
    {l : RequestCall × Option UploadRequest}
    (hstep : UploadState.RequestStep s l s') : Served sessions s' := by
  rcases h.step_cases hstep with
    ⟨gameServer, packet, now, -, hlive, heq⟩ | ⟨clientId, ticket, -, heq⟩ |
    ⟨clientId, request, hrequest, -, heq⟩
  · subst heq
    refine ⟨h.same, ?_⟩
    intro other pending hpending
    rw [pushRequest_pending] at hpending
    split at hpending
    · cases hold : s.pendingRequests packet.clientId with
      | none =>
          rw [hold] at hpending
          cases hpending
          exact hlive
      | some oldRequest =>
          rw [hold] at hpending
          cases hpending
          exact h.pending _ oldRequest hold
    · exact h.pending other pending hpending
  · rw [heq]
    exact h
  · subst heq
    refine ⟨h.same, ?_⟩
    intro other pending hpending
    change Function.update s.pendingRequests clientId none other = _
      at hpending
    rw [Function.update_apply] at hpending
    split at hpending
    · cases hpending
    · exact h.pending other pending hpending

/-- A push keeps the match exactly if it repeats what is pending. -/
theorem PendingMatches.push_iff (h : PendingMatches sessions history s)
    {gameServer : Addr} {packet : RequestUpload} {now : Int64}
    {result : Option UploadRequest} :
    PendingMatches sessions
        (history ++ [(RequestCall.push gameServer packet now, result)])
        (s.pushRequest gameServer packet now) ↔
      forall ticket, lastPush sessions history packet.clientId =
        some ticket -> ticket.accountId = packet.accountId ∧
          ticket.guildSid = packet.guildSid ∧
          ticket.gameServerName = serverNameOf sessions gameServer := by
  have hown := h packet.clientId
  have hafter (clientId : UInt32) : lastPush sessions
      (history ++ [(RequestCall.push gameServer packet now, result)])
        clientId = if clientId = packet.clientId then
          some (packet.ticket sessions gameServer)
        else lastPush sessions history clientId := by
    rw [lastPush_snoc]
    exact Function.update_apply _ _ _ _
  constructor
  · intro hmatches ticket hlast
    have hnew := hmatches packet.clientId
    rw [hafter, if_pos rfl, pushRequest_pending, if_pos rfl] at hnew
    rw [hlast] at hown
    rcases Option.map_eq_some_iff.mp hown with ⟨request, hrequest, heq⟩
    rw [hrequest] at hnew
    subst heq
    have hticket := Option.some.inj hnew
    exact ⟨congrArg Ticket.accountId hticket,
      congrArg Ticket.guildSid hticket,
      congrArg Ticket.gameServerName hticket⟩
  · intro hrepeats clientId
    rw [hafter, pushRequest_pending]
    split
    · cases hold : s.pendingRequests packet.clientId with
      | none => rfl
      | some oldRequest =>
          rw [hold, Option.map_some] at hown
          rcases hrepeats _ hown.symm with ⟨haccount, hguild, hserver⟩
          have haccount' : oldRequest.accountId = packet.accountId := haccount
          have hguild' : oldRequest.guildSid = packet.guildSid := hguild
          have hserver' : serverNameOf sessions oldRequest.gameServer =
            serverNameOf sessions gameServer := hserver
          simp [UploadRequest.ticket, RequestUpload.ticket, haccount',
            hguild', hserver']
    · exact h clientId

theorem PendingMatches.pop (h : PendingMatches sessions history s)
    (hserved : Served sessions s) {clientId : UInt32} {ticket : Ticket}
    {result : Option UploadRequest}
    (hstep : UploadState.RequestStep s (RequestCall.pop clientId ticket,
      result) s') :
    PendingMatches sessions
      (history ++ [(RequestCall.pop clientId ticket, result)]) s' := by
  intro other
  rw [lastPush_snoc]
  rcases hserved.step_cases hstep with
    ⟨gameServer, packet, now, heq, -, -⟩ | ⟨id, refused, heq, hsame⟩ |
    ⟨id, request, -, heq, hpopped⟩
  · cases heq
  · cases heq
    rw [hsame]
    exact h other
  · cases heq
    subst hpopped
    change (Function.update s.pendingRequests clientId none other).map _ =
      Function.update (lastPush sessions history) clientId none other
    rw [Function.update_apply, Function.update_apply]
    split
    · rfl
    · exact h other

/-!
## Runs
-/

theorem served_run
    (hrun : Run UploadState.RequestStep (UploadState.serving sessions)
      history s) : Served sessions s :=
  hrun.invariant served_serving fun h hstep => h.step hstep

theorem lastPush_consumed {before between :
      List (RequestCall × Option UploadRequest)} {clientId : UInt32}
    (hnone : lastPush sessions before clientId = none)
    (hquiet : forall gameServer packet now result,
      (RequestCall.push gameServer packet now, result) ∈ between ->
        packet.clientId ≠ clientId) :
    lastPush sessions (before ++ between) clientId = none := by
  induction between using List.reverseRecOn with
  | nil =>
      rw [List.append_nil]
      exact hnone
  | append_singleton between l ih =>
      have hearlier := ih fun gameServer packet now result hmem =>
        hquiet gameServer packet now result (List.mem_append_left _ hmem)
      rw [← List.append_assoc, lastPush_snoc]
      rcases l with ⟨call, result⟩
      cases call with
      | push gameServer packet now =>
          have hne := hquiet gameServer packet now result
            (List.mem_append_right _ List.mem_cons_self)
          exact (Function.update_of_ne (Ne.symm hne) _ _).trans hearlier
      | pop other ticket =>
          cases result with
          | none => exact hearlier
          | some request =>
              refine (Function.update_apply _ _ _ _).trans ?_
              split
              · rfl
              · exact hearlier

theorem pending_run
    (hrun : Run UploadState.RequestStep (UploadState.serving sessions)
      history s) (clientId : UInt32) :
    (s.pendingRequests clientId).isSome =
      (lastPush sessions history clientId).isSome := by
  induction hrun with
  | nil => rfl
  | snoc before last ih =>
      rw [lastPush_snoc]
      rcases (served_run before).step_cases last with
        ⟨gameServer, packet, now, heq, -, hpushed⟩ |
        ⟨id, refused, heq, hsame⟩ | ⟨id, request, -, heq, hpopped⟩
      · rw [heq, hpushed, pushRequest_pending]
        refine Eq.trans ?_ (congrArg Option.isSome
          (Function.update_apply _ _ _ _)).symm
        split
        · rfl
        · exact ih
      · rw [heq, hsame]
        exact ih
      · rw [heq, hpopped]
        refine Eq.trans (congrArg Option.isSome
          (Function.update_apply _ _ _ _)) (Eq.trans ?_ (congrArg
            Option.isSome (Function.update_apply _ _ _ _)).symm)
        split
        · rfl
        · exact ih

theorem returnedOnce_run
    (hrun : Run UploadState.RequestStep (UploadState.serving sessions)
      history s) : ReturnedOnce history := by
  intro before between after clientId ticket ticket' request request' heq
  refine Classical.byContradiction fun hnone => ?_
  have hquiet : forall gameServer packet now result,
      (RequestCall.push gameServer packet now, result) ∈ between ->
        packet.clientId ≠ clientId := by
    intro gameServer packet now result hmem hid
    exact hnone ⟨gameServer, packet, now, result, hmem, hid⟩
  have hfirst : lastPush sessions (before ++
      [(RequestCall.pop clientId ticket, some request)]) clientId = none := by
    rw [lastPush_snoc]
    exact Function.update_self _ _ _
  have hconsumed := lastPush_consumed hfirst hquiet
  rw [List.append_cons, ← List.append_assoc] at heq
  subst heq
  rcases hrun.split with ⟨mid, mid', hbefore, hstep, -⟩
  have hpending := pending_run hbefore clientId
  rw [hconsumed] at hpending
  rcases (served_run hbefore).step_cases hstep with
    ⟨gameServer, packet, now, hlabel, -⟩ | ⟨id, refused, hlabel, -⟩ |
    ⟨id, found, hfound, hlabel, -⟩
  · cases hlabel
  · cases hlabel
  · cases hlabel
    rw [hfound] at hpending
    cases hpending

theorem matches_run
    (hrun : Run UploadState.RequestStep (UploadState.serving sessions)
      history s) (hrepeats : Repeats sessions history) :
    PendingMatches sessions history s := by
  induction hrun with
  | nil => exact fun _ => rfl
  | snoc before last ih =>
      rename_i history s s' l
      have hmatches := ih fun earlier gameServer packet now result after
          ticket heq => hrepeats earlier gameServer packet now result
            (after ++ [l]) ticket (by
              rw [heq, List.append_assoc, List.cons_append])
      have hserved := served_run before
      rcases l with ⟨call, result⟩
      cases call with
      | push gameServer packet now =>
          rcases Option.bind_eq_some_iff.mp last with
            ⟨session, hsession, hpush⟩
          cases hpush
          exact hmatches.push_iff.mpr fun ticket hlast =>
            hrepeats history gameServer packet now none [] ticket rfl hlast
      | pop clientId ticket => exact hmatches.pop hserved last

/--
Every client gets a request exactly for the values of the last one that was
pushed for it, at any point of a history, if and only if no push for a client
id changes the account, the guild or the game server of a pending request.
-/
theorem returnsLastPushed_iff
    (hrun : Run UploadState.RequestStep (UploadState.serving sessions)
      history s) :
    ReturnsLastPushed sessions history ↔ Repeats sessions history := by
  constructor
  · intro hreturns before gameServer packet now result after ticket heq hlast
    subst heq
    rcases hrun.split with ⟨mid, mid', hbefore, hstep, -⟩
    have hmatches := (served_run hbefore).exact_iff.mp
      (hreturns.left before _ mid rfl hbefore)
    have hnext := Run.snoc hbefore hstep
    have hmatches' := (served_run hnext).exact_iff.mp
      (hreturns.left _ after mid' (List.append_cons _ _ _) hnext)
    rcases Option.bind_eq_some_iff.mp hstep with ⟨session, -, hpush⟩
    cases hpush
    exact hmatches.push_iff.mp hmatches' ticket hlast
  · intro hrepeats
    refine ⟨?_, returnedOnce_run hrun⟩
    intro before after mid heq hmid
    apply (served_run hmid).exact_iff.mpr
    apply matches_run hmid
    intro earlier gameServer packet now result later ticket hsplit
    apply hrepeats earlier gameServer packet now result (later ++ after)
    rw [heq, hsplit, List.append_assoc, List.cons_append]

end Pending

/-!
## A guild that changes
-/

def oneServer (gameServer : Addr) : Option GameServerSession :=
  if gameServer = 1 then some { serverName := chars "a" } else none

def requestOf (guildSid oneTimePassword : UInt32) : RequestUpload where
  clientId := 7
  accountId := 1
  guildSid := guildSid
  oneTimePassword := oneTimePassword

/-- Two requests for the guilds, and only the second one is used. -/
def twicePushed (guildSid guildSid' : UInt32) : UploadState :=
  ((UploadState.serving oneServer).pushRequest 1 (requestOf guildSid 3)
    0).pushRequest 1 (requestOf guildSid' 4) 1

def twoPushes (guildSid guildSid' : UInt32) :
    List (RequestCall × Option UploadRequest) :=
  [(RequestCall.push 1 (requestOf guildSid 3) 0, none),
    (RequestCall.push 1 (requestOf guildSid' 4) 1, none)]

theorem twoPushes_run (guildSid guildSid' : UInt32) :
    Run UploadState.RequestStep (UploadState.serving oneServer)
      (twoPushes guildSid guildSid') (twicePushed guildSid guildSid') := by
  have hfirst : Run UploadState.RequestStep (UploadState.serving oneServer)
      [(RequestCall.push 1 (requestOf guildSid 3) 0, none)]
      ((UploadState.serving oneServer).pushRequest 1 (requestOf guildSid 3)
        0) := Run.snoc Run.nil rfl
  exact Run.snoc hfirst rfl

/-- The values of the second request. -/
def ticketOf (guildSid : UInt32) : Ticket where
  accountId := 1
  guildSid := guildSid
  oneTimePassword := 4
  gameServerName := chars "a"

theorem returnsLastPushed_iff_again :
    exists request, ReturnsLastPushed oneServer
        (twoPushes 2 2 ++ [(RequestCall.pop 7 (ticketOf 2), some request)]) ↔
      Repeats oneServer
        (twoPushes 2 2 ++ [(RequestCall.pop 7 (ticketOf 2), some request)]) :=
  ⟨_, returnsLastPushed_iff (Run.snoc (twoPushes_run 2 2) rfl)⟩

/-- The player has joined another guild; the old one stays in the request. -/
theorem not_returnsLastPushed_guild :
    ¬forall sessions history s,
      Run UploadState.RequestStep (UploadState.serving sessions) history s ->
        ReturnsLastPushed sessions history := by
  intro hreturns
  have hrun := twoPushes_run 2 5
  rcases (hreturns _ _ _ hrun).left _ [] _ (List.append_nil _).symm hrun 7
    (ticketOf 5) with ⟨s', request, hpop, hiff⟩
  have hrefused : (twicePushed 2 5).popTicket 7 (ticketOf 5) =
      some (twicePushed 2 5, none) := rfl
  cases hrefused.symm.trans hpop
  exact absurd (hiff.mpr (by decide)) (by decide)

end Upload
end Rzu
