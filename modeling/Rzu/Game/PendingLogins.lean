import Rzu.Game.LoginServer
import Rzu.Library.Requests
import Rzu.Library.Run

/-!
# Pending logins

The game server together with the requests that the auth server has not
answered yet.  A result of the auth server belongs to the oldest request that
reads the same to it, and has to reach the session that asked.
-/

namespace Rzu
namespace Game

open Auth (Addr CharString convertToString)
open Library

/-- The sessions that a login result is delivered to. -/
def receivers (outputs : List Output) : List Addr :=
  outputs.filterMap fun output =>
    match output with
    | Output.accountResult c _ => some c
    | _ => none

/-- The auth server has been asked about a client. -/
def Accepted (outputs : List Output) : Bool :=
  outputs.any fun output =>
    match output with
    | Output.clientLogin _ _ => true
    | _ => false

/-- What the auth server reads of an account in a request. -/
def sentAccount (account : CharString) : CharString :=
  account.take 60

/-- The game server, what it has asked, and what its sessions were told. -/
structure Exchange where
  game : GameState
  /-- What the auth server has not answered, oldest first. -/
  waiting : List (Request Addr CharString)
  /-- The sessions whose request went to the auth server. -/
  asked : Addr -> Bool
  /-- How many results a session has got. -/
  results : Addr -> Nat

namespace Exchange

variable {ex ex' : Exchange} {e : Event} {c p : Addr}
variable {account : CharString}

def initial : Exchange where
  game := GameState.initial
  waiting := []
  asked _ := false
  results _ := 0

def waitingAfter (ex : Exchange) (outputs : List Output) :
    Event -> List (Request Addr CharString)
  | Event.accountWithAuth c packet _ =>
      if Accepted outputs then
        ex.waiting ++ [{ asker := some c, key := packet.account }]
      else ex.waiting
  | Event.clientDisconnected c => leave ex.waiting c
  | Event.clientLoginResult packet =>
      answer sentAccount ex.waiting (accountOf packet.account.toList)
  | _ => ex.waiting

def askedAfter (ex : Exchange) (outputs : List Output) :
    Event -> Addr -> Bool
  | Event.accountWithAuth c _ _ =>
      if Accepted outputs then Function.update ex.asked c true else ex.asked
  | Event.clientDisconnected c => Function.update ex.asked c false
  | _ => ex.asked

def resultsAfter (ex : Exchange) (outputs : List Output) :
    Event -> Addr -> Nat
  | Event.clientDisconnected c => Function.update ex.results c 0
  | _ => fun c => ex.results c + (receivers outputs).count c

def observe (ex : Exchange) (e : Event) (game : GameState)
    (outputs : List Output) : Exchange where
  game := game
  waiting := ex.waitingAfter outputs e
  asked := ex.askedAfter outputs e
  results := ex.resultsAfter outputs e

def Step (ex : Exchange) (e : Event) (ex' : Exchange) : Prop :=
  exists game outputs, ex.game.handle e = some (game, outputs) ∧
    ex' = ex.observe e game outputs

theorem step_deterministic : Deterministic Step := by
  intro ex e ex' ex'' h h'
  rcases h with ⟨game, outputs, hhandle, heq⟩
  rcases h' with ⟨game', outputs', hhandle', heq'⟩
  rw [hhandle] at hhandle'
  cases hhandle'
  rw [heq, heq']

/-- Every pointer to a client that waits refers to a live session. -/
def Live (ex : Exchange) : Prop :=
  forall account p, ex.game.pendingClients account = some p ->
    exists session, ex.game.clientSessions p = some session

/--
The session of a request that was accepted gets no result while the auth
server has not answered, and exactly one once it has.
-/
structure Once (ex : Exchange) : Prop where
  unanswered : forall request c, request ∈ ex.waiting ->
    request.asker = some c -> ex.results c = 0
  answered : forall c, ex.asked c = true ->
    (forall request, request ∈ ex.waiting -> request.asker ≠ some c) ->
      ex.results c = 1
  unasked : forall c, ex.asked c = false -> ex.results c = 0

/-- The session that a result is for, if it is still there. -/
def expected (ex : Exchange) : Event -> List Addr
  | Event.clientLoginResult packet =>
      ((Library.answered sentAccount ex.waiting
        (accountOf packet.account.toList)).bind Request.asker).toList
  | _ => []

/-- The right session gets the result, and all that waits is still there. -/
structure Delivers (ex : Exchange) (e : Event) (ex' : Exchange) : Prop where
  right : forall game outputs, ex.game.handle e = some (game, outputs) ->
    receivers outputs = ex.expected e
  live : ex'.Live
  once : ex'.Once

/--
A client leaves while it waits, or a result comes for an account that is too
long for the messages between the servers.
-/
def Misses (ex : Exchange) : Event -> Prop
  | Event.clientDisconnected c =>
      exists account, ex.game.pendingClients account = some c
  | Event.clientLoginResult packet =>
      exists request,
        Library.answered sentAccount ex.waiting
          (accountOf packet.account.toList) = some request ∧
        60 < request.key.length
  | _ => False

/-!
## The invariant
-/

/-- The clients that wait are those of the requests without an answer. -/
structure Matched (ex : Exchange) : Prop where
  once : Once ex
  nodup : ex.waiting.Nodup
  stayed : forall request, request ∈ ex.waiting -> request.asker ≠ none
  pending : forall account p, ex.game.pendingClients account = some p ↔
    ({ asker := some p, key := account } : Request Addr CharString) ∈
      ex.waiting
  received : forall account p, ex.game.pendingClients account = some p ->
    exists session, ex.game.clientSessions p = some session ∧
      session.authReceived = true
  known : forall request c, request ∈ ex.waiting ->
    request.asker = some c -> ex.asked c = true
  single : forall account account' p,
    ex.game.pendingClients account = some p ->
    ex.game.pendingClients account' = some p -> account = account'
  fresh : forall c session, ex.game.clientSessions c = some session ->
    session.authReceived = false -> ex.asked c = false
  gone : forall c, ex.game.clientSessions c = none -> ex.asked c = false

theorem matched_initial : Matched initial where
  once := ⟨fun _ _ h => absurd h List.not_mem_nil,
    fun _ h => Bool.noConfusion h, fun _ _ => rfl⟩
  nodup := List.nodup_nil
  stayed _ h := absurd h List.not_mem_nil
  pending account p := by
    constructor
    · intro h
      cases h
    · intro h
      exact absurd h List.not_mem_nil
  received account p h := by cases h
  known _ _ h := absurd h List.not_mem_nil
  single account account' p h := by cases h
  fresh _ _ h := by cases h
  gone _ _ := rfl

namespace Matched

theorem live (h : Matched ex) : Live ex := by
  intro account p hpending
  rcases h.received account p hpending with ⟨session, hsession, -⟩
  exact ⟨session, hsession⟩

theorem pending_of_waiting (h : Matched ex)
    {request : Request Addr CharString} (hmem : request ∈ ex.waiting) :
    exists p, request.asker = some p ∧
      ex.game.pendingClients request.key = some p := by
  cases hasker : request.asker with
  | none => exact absurd hasker (h.stayed request hmem)
  | some p =>
      refine ⟨p, rfl, (h.pending request.key p).mpr ?_⟩
      rw [← hasker]
      exact hmem

theorem sessions_changed (h : Matched ex)
    {sessions : Addr -> Option ClientSession}
    (hreceived : forall p session, ex.game.clientSessions p = some session ->
      session.authReceived = true ->
        exists session', sessions p = some session' ∧
          session'.authReceived = true)
    (hfresh : forall c session, sessions c = some session ->
      session.authReceived = false -> ex.asked c = false)
    (hgone : forall c, sessions c = none -> ex.asked c = false) :
    Matched { ex with game := { ex.game with clientSessions := sessions } }
      where
  once := ⟨h.once.unanswered, h.once.answered, h.once.unasked⟩
  nodup := h.nodup
  stayed := h.stayed
  pending := h.pending
  received account p hpending := by
    rcases h.received account p hpending with ⟨session, hsession, hasked⟩
    exact hreceived p session hsession hasked
  known := h.known
  single := h.single
  fresh := hfresh
  gone := hgone

theorem session_set (h : Matched ex) {session' : ClientSession}
    (hkeeps : forall session, ex.game.clientSessions c = some session ->
      session.authReceived = true -> session'.authReceived = true)
    (hfresh : session'.authReceived = false -> ex.asked c = false) :
    Matched { ex with game := ex.game.setClientSession c session' } := by
  apply h.sessions_changed
  · intro p session hsession hreceived
    by_cases heq : p = c
    · subst heq
      exact ⟨session', Function.update_self ..,
        hkeeps session hsession hreceived⟩
    · rw [Function.update_of_ne heq]
      exact ⟨session, hsession, hreceived⟩
  · intro p session hsession hreceived
    by_cases heq : p = c
    · subst heq
      rw [Function.update_self] at hsession
      cases hsession
      exact hfresh hreceived
    · rw [Function.update_of_ne heq] at hsession
      exact h.fresh p session hsession hreceived
  · intro p hnone
    by_cases heq : p = c
    · subst heq
      rw [Function.update_self] at hnone
      cases hnone
    · rw [Function.update_of_ne heq] at hnone
      exact h.gone p hnone

theorem not_waiting (h : Matched ex) (hasked : ex.asked c = false)
    {request : Request Addr CharString} (hmem : request ∈ ex.waiting) :
    request.asker ≠ some c := by
  intro hasker
  have hknown := h.known request c hmem hasker
  rw [hasked] at hknown
  cases hknown

theorem accepted (h : Matched ex) {session : ClientSession}
    (hsession : ex.game.clientSessions c = some session)
    (hreceived : session.authReceived = true)
    (hasked : ex.asked c = false)
    (hfree : ex.game.pendingClients account = none) :
    Matched
      { game :=
          { ex.game with
            pendingClients :=
              Function.update ex.game.pendingClients account (some c) }
        waiting := ex.waiting ++ [{ asker := some c, key := account }]
        asked := Function.update ex.asked c true
        results := ex.results } := by
  have hnew : ({ asker := some c, key := account } :
      Request Addr CharString) ∉ ex.waiting := by
    intro hmem
    exact h.not_waiting hasked hmem rfl
  have hidle : forall account' p, ex.game.pendingClients account' = some p ->
      p ≠ c := by
    intro account' p hpending heq
    subst heq
    exact h.not_waiting hasked ((h.pending account' p).mp hpending) rfl
  constructor
  case once =>
    constructor
    · intro request c' hmem hasker
      rcases List.mem_append.mp hmem with hold | hlast
      · exact h.once.unanswered request c' hold hasker
      · rw [List.mem_singleton.mp hlast] at hasker
        cases hasker
        exact h.once.unasked c hasked
    · intro c' hasked' hidle'
      by_cases heq : c' = c
      · subst heq
        exact absurd rfl (hidle' _
          (List.mem_append_right _ (List.mem_singleton_self _)))
      · change Function.update ex.asked c true c' = true at hasked'
        rw [Function.update_of_ne heq] at hasked'
        apply h.once.answered c' hasked'
        intro request hmem
        exact hidle' request (List.mem_append_left _ hmem)
    · intro c' hasked'
      change Function.update ex.asked c true c' = false at hasked'
      by_cases heq : c' = c
      · rw [heq, Function.update_self] at hasked'
        cases hasked'
      · rw [Function.update_of_ne heq] at hasked'
        exact h.once.unasked c' hasked'
  case nodup =>
    exact h.nodup.append (List.nodup_singleton _)
      (List.disjoint_singleton.mpr hnew)
  case stayed =>
    intro request hmem
    rcases List.mem_append.mp hmem with hold | hlast
    · exact h.stayed request hold
    · rw [List.mem_singleton.mp hlast]
      exact Option.some_ne_none c
  case pending =>
    intro account' p
    change Function.update ex.game.pendingClients account (some c) account' =
      some p ↔ _
    rw [List.mem_append, List.mem_singleton]
    by_cases heq : account' = account
    · subst heq
      rw [Function.update_self]
      constructor
      · intro hsome
        cases hsome
        exact Or.inr rfl
      · intro hmem
        rcases hmem with hold | hlast
        · rw [(h.pending account' p).mpr hold] at hfree
          cases hfree
        · cases hlast
          rfl
    · rw [Function.update_of_ne heq, h.pending account' p]
      constructor
      · exact Or.inl
      · intro hmem
        rcases hmem with hold | hlast
        · exact hold
        · cases hlast
          exact absurd rfl heq
  case received =>
    intro account' p hpending
    change Function.update ex.game.pendingClients account (some c) account' =
      some p at hpending
    by_cases heq : account' = account
    · rw [heq, Function.update_self] at hpending
      cases hpending
      exact ⟨session, hsession, hreceived⟩
    · rw [Function.update_of_ne heq] at hpending
      exact h.received account' p hpending
  case known =>
    intro request c' hmem hasker
    change Function.update ex.asked c true c' = true
    by_cases heq : c' = c
    · rw [heq, Function.update_self]
    · rw [Function.update_of_ne heq]
      rcases List.mem_append.mp hmem with hold | hlast
      · exact h.known request c' hold hasker
      · rw [List.mem_singleton.mp hlast] at hasker
        cases hasker
        exact absurd rfl heq
  case single =>
    intro first second p hfirst hsecond
    change Function.update ex.game.pendingClients account (some c) first =
      some p at hfirst
    change Function.update ex.game.pendingClients account (some c) second =
      some p at hsecond
    by_cases heq : first = account
    · by_cases heq' : second = account
      · rw [heq, heq']
      · rw [heq, Function.update_self] at hfirst
        rw [Function.update_of_ne heq'] at hsecond
        cases hfirst
        exact absurd rfl (hidle second c hsecond)
    · rw [Function.update_of_ne heq] at hfirst
      by_cases heq' : second = account
      · rw [heq', Function.update_self] at hsecond
        cases hsecond
        exact absurd rfl (hidle first c hfirst)
      · rw [Function.update_of_ne heq'] at hsecond
        exact h.single first second p hfirst hsecond
  case fresh =>
    intro c' session' hsession' hreceived'
    change Function.update ex.asked c true c' = false
    by_cases heq : c' = c
    · subst heq
      change ex.game.clientSessions c' = some session' at hsession'
      rw [hsession] at hsession'
      cases hsession'
      rw [hreceived] at hreceived'
      cases hreceived'
    · rw [Function.update_of_ne heq]
      exact h.fresh c' session' hsession' hreceived'
  case gone =>
    intro c' hnone
    change Function.update ex.asked c true c' = false
    by_cases heq : c' = c
    · subst heq
      change ex.game.clientSessions c' = none at hnone
      rw [hsession] at hnone
      cases hnone
    · rw [Function.update_of_ne heq]
      exact h.gone c' hnone

theorem delivered (h : Matched ex) {request : Request Addr CharString}
    {m : CharString}
    (hfound : Library.answered sentAccount ex.waiting m = some request)
    (hpending : ex.game.pendingClients request.key = some p) :
    Matched
      { game :=
          { ex.game with
            pendingClients :=
              Function.update ex.game.pendingClients request.key none }
        waiting := answer sentAccount ex.waiting m
        asked := ex.asked
        results := fun c => ex.results c + [p].count c } := by
  have hmem := answered_mem hfound
  have hasker : request.asker = some p := by
    rcases h.pending_of_waiting hmem with ⟨p', hasker, hpending'⟩
    rw [hpending] at hpending'
    cases hpending'
    exact hasker
  have hrest : forall {other : Request Addr CharString},
      other ∈ answer sentAccount ex.waiting m ↔
        other ≠ request ∧ other ∈ ex.waiting :=
    mem_answer h.nodup hfound
  have hother : forall {other : Request Addr CharString},
      other ∈ answer sentAccount ex.waiting m ->
        other.asker ≠ some p ∧ other.key ≠ request.key := by
    intro other hin
    rcases hrest.mp hin with ⟨hne, hin⟩
    rcases h.pending_of_waiting hin with ⟨p', hasker', hpending'⟩
    constructor
    · intro heq
      rw [hasker'] at heq
      cases heq
      apply hne
      have hkey := h.single other.key request.key p hpending' hpending
      cases other
      cases request
      cases hkey
      cases hasker
      cases hasker'
      rfl
    · intro heq
      rw [heq, hpending] at hpending'
      cases hpending'
      apply hne
      cases other
      cases request
      cases heq
      cases hasker
      cases hasker'
      rfl
  have hothers : forall c, c ≠ p -> ex.results c + [p].count c =
      ex.results c := by
    intro c hne
    rw [List.count_singleton, if_neg, Nat.add_zero]
    intro heq
    exact hne (eq_of_beq heq).symm
  constructor
  case once =>
    constructor
    · intro other c hin hasker'
      have hne : c ≠ p := by
        intro heq
        subst heq
        exact (hother hin).left hasker'
      change ex.results c + [p].count c = 0
      rw [hothers c hne]
      exact h.once.unanswered other c (hrest.mp hin).right hasker'
    · intro c hasked hidle
      change ex.results c + [p].count c = 1
      by_cases heq : c = p
      · rw [heq, List.count_singleton_self,
          h.once.unanswered request p hmem hasker]
      · rw [hothers c heq]
        apply h.once.answered c hasked
        intro other hin hasker'
        apply hidle other _ hasker'
        apply hrest.mpr
        refine ⟨?_, hin⟩
        intro hsame
        rw [hsame, hasker] at hasker'
        cases hasker'
        exact heq rfl
    · intro c hasked
      change ex.results c + [p].count c = 0
      rw [hothers c]
      · exact h.once.unasked c hasked
      · intro heq
        subst heq
        exact h.not_waiting hasked hmem hasker
  case nodup => exact answer_nodup h.nodup m
  case stayed =>
    intro other hin
    exact h.stayed other (hrest.mp hin).right
  case pending =>
    intro account p'
    change Function.update ex.game.pendingClients request.key none account =
      some p' ↔ _
    rw [hrest]
    by_cases heq : account = request.key
    · rw [heq, Function.update_self]
      constructor
      · intro hsome
        cases hsome
      · intro hin
        exact absurd rfl (hother (hrest.mpr hin)).right
    · rw [Function.update_of_ne heq, h.pending account p']
      constructor
      · intro hin
        refine ⟨?_, hin⟩
        intro hsame
        rw [← hsame] at heq
        exact heq rfl
      · exact And.right
  case received =>
    intro account p' hpending'
    change Function.update ex.game.pendingClients request.key none account =
      some p' at hpending'
    by_cases heq : account = request.key
    · rw [heq, Function.update_self] at hpending'
      cases hpending'
    · rw [Function.update_of_ne heq] at hpending'
      exact h.received account p' hpending'
  case known =>
    intro other c hin hasker'
    exact h.known other c (hrest.mp hin).right hasker'
  case single =>
    intro first second p' hfirst hsecond
    change Function.update ex.game.pendingClients request.key none first =
      some p' at hfirst
    change Function.update ex.game.pendingClients request.key none second =
      some p' at hsecond
    by_cases heq : first = request.key
    · rw [heq, Function.update_self] at hfirst
      cases hfirst
    · rw [Function.update_of_ne heq] at hfirst
      by_cases heq' : second = request.key
      · rw [heq', Function.update_self] at hsecond
        cases hsecond
      · rw [Function.update_of_ne heq'] at hsecond
        exact h.single first second p' hfirst hsecond
  case fresh => exact h.fresh
  case gone => exact h.gone

theorem left (h : Matched ex)
    (hidle : forall account, ex.game.pendingClients account ≠ some c) :
    Matched
      { game :=
          { ex.game with
            clientSessions :=
              Function.update ex.game.clientSessions c none }
        waiting := leave ex.waiting c
        asked := Function.update ex.asked c false
        results := Function.update ex.results c 0 } := by
  have habsent : forall request, request ∈ ex.waiting ->
      request.asker ≠ some c := by
    intro request hmem hasker
    rcases h.pending_of_waiting hmem with ⟨p, hasker', hpending⟩
    rw [hasker] at hasker'
    cases hasker'
    exact hidle request.key hpending
  rw [leave_of_absent habsent]
  constructor
  case once =>
    constructor
    · intro request c' hmem hasker
      have hne : c' ≠ c := by
        intro heq
        subst heq
        exact habsent request hmem hasker
      change Function.update ex.results c 0 c' = 0
      rw [Function.update_of_ne hne]
      exact h.once.unanswered request c' hmem hasker
    · intro c' hasked hidle'
      change Function.update ex.asked c false c' = true at hasked
      change Function.update ex.results c 0 c' = 1
      by_cases heq : c' = c
      · rw [heq, Function.update_self] at hasked
        cases hasked
      · rw [Function.update_of_ne heq] at hasked
        rw [Function.update_of_ne heq]
        exact h.once.answered c' hasked hidle'
    · intro c' hasked
      change Function.update ex.asked c false c' = false at hasked
      change Function.update ex.results c 0 c' = 0
      by_cases heq : c' = c
      · rw [heq, Function.update_self]
      · rw [Function.update_of_ne heq] at hasked
        rw [Function.update_of_ne heq]
        exact h.once.unasked c' hasked
  case nodup => exact h.nodup
  case stayed => exact h.stayed
  case pending => exact h.pending
  case received =>
    intro account p hpending
    change exists session, Function.update ex.game.clientSessions c none p =
      some session ∧ session.authReceived = true
    have hne : p ≠ c := by
      intro heq
      subst heq
      exact hidle account hpending
    rw [Function.update_of_ne hne]
    exact h.received account p hpending
  case known =>
    intro request c' hmem hasker
    have hne : c' ≠ c := by
      intro heq
      subst heq
      exact habsent request hmem hasker
    change Function.update ex.asked c false c' = true
    rw [Function.update_of_ne hne]
    exact h.known request c' hmem hasker
  case single => exact h.single
  case fresh =>
    intro c' session hsession hreceived
    change Function.update ex.game.clientSessions c none c' = some session
      at hsession
    change Function.update ex.asked c false c' = false
    by_cases heq : c' = c
    · rw [heq, Function.update_self]
    · rw [Function.update_of_ne heq] at hsession
      rw [Function.update_of_ne heq]
      exact h.fresh c' session hsession hreceived
  case gone =>
    intro c' hnone
    change Function.update ex.game.clientSessions c none c' = none at hnone
    change Function.update ex.asked c false c' = false
    by_cases heq : c' = c
    · rw [heq, Function.update_self]
    · rw [Function.update_of_ne heq] at hnone
      rw [Function.update_of_ne heq]
      exact h.gone c' hnone

end Matched

/-!
## Events
-/

theorem observe_silent {game : GameState} {outputs : List Output}
    (hreceivers : receivers outputs = []) (haccepted : Accepted outputs = false)
    (hleaves : forall c, e ≠ Event.clientDisconnected c)
    (hanswers : forall packet, e ≠ Event.clientLoginResult packet) :
    ex.observe e game outputs = { ex with game := game } := by
  have hresults : (fun c => ex.results c + (receivers outputs).count c) =
      ex.results := by
    funext c
    rw [hreceivers]
    rfl
  cases e with
  | clientDisconnected c => exact absurd rfl (hleaves c)
  | clientLoginResult packet => exact absurd rfl (hanswers packet)
  | accountWithAuth c packet memory =>
      simp only [observe, waitingAfter, askedAfter, resultsAfter, haccepted,
        Bool.false_eq_true, if_false, hresults]
  | _ => simp only [observe, waitingAfter, askedAfter, resultsAfter, hresults]

theorem connected_matched (h : Matched ex) {game : GameState}
    (hconnected : ex.game.clientConnected c = some game) :
    Matched { ex with game := game } := by
  rw [GameState.clientConnected] at hconnected
  split at hconnected
  · rename_i hnone
    cases hconnected
    apply h.session_set
    · intro session hsession
      rw [hnone] at hsession
      cases hsession
    · intro _
      exact h.gone c hnone
  · cases hconnected

theorem received_matched (h : Matched ex) {session : ClientSession}
    (hasked : ex.asked c = false) :
    Matched { ex with
      game := ex.game.setClientSession c
        { session with authReceived := true } } := by
  apply h.session_set
  · intro session hsession hreceived
    rfl
  · intro _
    exact hasked

theorem accountWithAuth_matched (h : Matched ex) {packet : AccountWithAuth}
    {memory : Vector UInt8 61} {game : GameState} {outputs : List Output}
    (hhandle : ex.game.onAccountWithAuth c packet memory =
      some (game, outputs)) :
    receivers outputs = [] ∧
      Matched (ex.observe (Event.accountWithAuth c packet memory) game
        outputs) := by
  rcases Option.bind_eq_some_iff.mp hhandle with ⟨session, hsession, hhandle⟩
  have hsilent : forall {game : GameState} {outputs : List Output},
      receivers outputs = [] -> Accepted outputs = false ->
      ex.observe (Event.accountWithAuth c packet memory) game outputs =
        { ex with game := game } := by
    intro game outputs hreceivers haccepted
    apply observe_silent hreceivers haccepted
    · intro c' heq
      cases heq
    · intro packet' heq
      cases heq
  split at hhandle
  · cases hhandle
    refine ⟨rfl, ?_⟩
    rw [hsilent rfl rfl]
    exact h
  · split at hhandle
    · cases hhandle
      refine ⟨rfl, ?_⟩
      rw [hsilent rfl rfl]
      exact h
    · rename_i hreceived
      have hasked := h.fresh c session hsession
        (eq_false_of_ne_true hreceived)
      have hmarked : Matched { ex with
          game := ex.game.setClientSession c
            { session with authReceived := true } } :=
        received_matched h hasked
      cases hpending : ex.game.pendingClients packet.account with
      | some other =>
          simp only [GameState.loginClient, GameState.setClientSession,
            hpending, Option.pure_def, Option.some.injEq] at hhandle
          cases hhandle
          refine ⟨rfl, ?_⟩
          rw [hsilent rfl rfl]
          exact hmarked
      | none =>
          simp only [GameState.loginClient, GameState.setClientSession,
            hpending, Option.pure_def, Option.some.injEq] at hhandle
          cases hhandle
          refine ⟨rfl, ?_⟩
          exact hmarked.accepted (Function.update_self ..) rfl hasked hpending

theorem Matched.unanswered (h : Matched ex) {packet : ClientLoginResult}
    (hnone : Library.answered sentAccount ex.waiting
      (accountOf packet.account.toList) = none) :
    ex.game.pendingClients (accountOf packet.account.toList) = none := by
  cases hpending :
      ex.game.pendingClients (accountOf packet.account.toList) with
  | none => rfl
  | some p =>
      have hmem := (h.pending _ p).mp hpending
      exact absurd (convertToString_idem packet.account.toList 60)
        (wire_ne_of_unanswered hnone hmem)

theorem loginResult_matched (h : Matched ex) {packet : ClientLoginResult}
    {game : GameState} {outputs : List Output}
    (hhandle : ex.game.onClientLoginResult packet = some (game, outputs))
    (hfits : forall request,
      Library.answered sentAccount ex.waiting
        (accountOf packet.account.toList) = some request ->
      request.key.length ≤ 60) :
    receivers outputs = ex.expected (Event.clientLoginResult packet) ∧
      Matched
        (ex.observe (Event.clientLoginResult packet) game outputs) := by
  cases hfound : Library.answered sentAccount ex.waiting
      (accountOf packet.account.toList) with
  | none =>
      simp only [GameState.onClientLoginResult, h.unanswered hfound,
        Option.some.injEq] at hhandle
      cases hhandle
      constructor
      · simp only [expected, hfound]
        rfl
      · have hsame : ex.observe (Event.clientLoginResult packet) ex.game [] =
            ex := by
          simp only [observe, waitingAfter, askedAfter, resultsAfter,
            answer_of_unanswered hfound]
          rfl
        rw [hsame]
        exact h
  | some request =>
      rcases h.pending_of_waiting (answered_mem hfound) with
        ⟨p, hasker, hpending⟩
      have hkey : request.key = accountOf packet.account.toList := by
        rw [← answered_wire hfound, sentAccount,
          List.take_of_length_le (hfits request hfound)]
      rcases h.received _ p hpending with ⟨session, hsession, hreceived⟩
      have hdelivered := h.delivered hfound hpending
      simp only [GameState.onClientLoginResult, ← hkey, hpending] at hhandle
      rcases Option.bind_eq_some_iff.mp hhandle with
        ⟨session', hsession', hhandle⟩
      change ex.game.clientSessions p = some session' at hsession'
      rw [hsession] at hsession'
      cases hsession'
      have hexpected : ex.expected (Event.clientLoginResult packet) = [p] := by
        simp only [expected, hfound, Option.bind_some, hasker]
        rfl
      rw [hexpected]
      split at hhandle
      · cases hhandle
        exact ⟨rfl, hdelivered⟩
      · cases hhandle
        refine ⟨rfl, ?_⟩
        apply hdelivered.session_set
        · intro session' hsession' hreceived'
          exact hreceived
        · intro hnot
          change session.authReceived = false at hnot
          rw [hreceived] at hnot
          cases hnot

theorem Matched.handles (h : Matched ex) {game : GameState}
    {outputs : List Output}
    (hhandle : ex.game.handle e = some (game, outputs))
    (hmisses : ¬ex.Misses e) :
    receivers outputs = ex.expected e ∧
      Matched (ex.observe e game outputs) := by
  cases e with
  | clientConnected c =>
      rcases Option.map_eq_some_iff.mp hhandle with ⟨game', hgame, heq⟩
      cases heq
      exact ⟨rfl, connected_matched h hgame⟩
  | accountWithAuth c packet memory => exact accountWithAuth_matched h hhandle
  | clientDisconnected c =>
      rcases Option.bind_eq_some_iff.mp hhandle with
        ⟨session, hsession, hhandle⟩
      cases hhandle
      refine ⟨rfl, h.left ?_⟩
      intro account hpending
      exact hmisses ⟨account, hpending⟩
  | clientLoginResult packet =>
      apply loginResult_matched h hhandle
      intro request hfound
      apply Nat.le_of_not_lt
      intro hlong
      exact hmisses ⟨request, hfound, hlong⟩
  | kickClient account =>
      cases hhandle
      exact ⟨rfl, h⟩

/-!
## Runs
-/

theorem Matched.delivers (h : Matched ex) (hstep : Step ex e ex')
    (hmisses : ¬ex.Misses e) : Delivers ex e ex' ∧ Matched ex' := by
  rcases hstep with ⟨game, outputs, hhandle, heq⟩
  subst heq
  rcases h.handles hhandle hmisses with ⟨hright, hmatched⟩
  refine ⟨⟨?_, hmatched.live, hmatched.once⟩, hmatched⟩
  intro game' outputs' hhandle'
  rw [hhandle] at hhandle'
  cases hhandle'
  exact hright

theorem not_live_of_left {account : CharString}
    (hpending : ex.game.pendingClients account = some c)
    (hstep : Step ex (Event.clientDisconnected c) ex') : ¬ex'.Live := by
  intro hlive
  rcases hstep with ⟨game, outputs, hhandle, heq⟩
  subst heq
  rcases Option.bind_eq_some_iff.mp hhandle with ⟨session, hsession, hhandle⟩
  cases hhandle
  rcases hlive account c hpending with ⟨session', hgone⟩
  change Function.update ex.game.clientSessions c none c = some session'
    at hgone
  rw [Function.update_self] at hgone
  cases hgone

theorem Matched.not_right (h : Matched ex) {packet : ClientLoginResult}
    {request : Request Addr CharString} {game : GameState}
    {outputs : List Output}
    (hfound : Library.answered sentAccount ex.waiting
      (accountOf packet.account.toList) = some request)
    (hlong : 60 < request.key.length)
    (hhandle : ex.game.onClientLoginResult packet = some (game, outputs)) :
    receivers outputs ≠ ex.expected (Event.clientLoginResult packet) := by
  rcases h.pending_of_waiting (answered_mem hfound) with
    ⟨p, hasker, hpending⟩
  have hexpected : ex.expected (Event.clientLoginResult packet) = [p] := by
    simp only [expected, hfound, Option.bind_some, hasker]
    rfl
  rw [hexpected]
  intro hreceivers
  simp only [GameState.onClientLoginResult] at hhandle
  split at hhandle
  · cases hhandle
    cases hreceivers
  · rename_i client hclient
    rcases Option.bind_eq_some_iff.mp hhandle with
      ⟨session, hsession, hhandle⟩
    have hsame : client = p := by
      split at hhandle
      · cases hhandle
        cases hreceivers
        rfl
      · cases hhandle
        cases hreceivers
        rfl
    subst hsame
    have hkey := h.single _ _ client hclient hpending
    have hread : (accountOf packet.account.toList).take 60 =
        accountOf packet.account.toList :=
      convertToString_idem packet.account.toList 60
    rw [hkey] at hread
    have hlength := congrArg List.length hread
    rw [List.length_take] at hlength
    omega

theorem Misses.not_delivers (hmisses : ex.Misses e) (h : Matched ex)
    (hstep : Step ex e ex') : ¬Delivers ex e ex' := by
  intro hdelivers
  cases e with
  | clientDisconnected c =>
      rcases hmisses with ⟨account, hpending⟩
      exact not_live_of_left hpending hstep hdelivers.live
  | clientLoginResult packet =>
      rcases hmisses with ⟨request, hfound, hlong⟩
      rcases hstep with ⟨game, outputs, hhandle, heq⟩
      exact h.not_right hfound hlong hhandle
        (hdelivers.right game outputs hhandle)
  | _ => exact absurd hmisses id

/--
In a run of the game server, each result of the auth server reaches the
session that asked for it, once, and no pointer to a client that is gone is
kept, exactly if no client leaves while it waits and no result comes for an
account that is too long.
-/
theorem delivers_iff_avoids_misses {history : List Event}
    (hrun : Run Step initial history ex) :
    AtEachStep Step initial Delivers history ↔
      Avoids Step initial Misses history := by
  apply atEachStep_iff_avoids step_deterministic matched_initial _ _ _ hrun
  · intro ex e ex' h hstep hdelivers
    have hmisses : ¬ex.Misses e := fun hmisses =>
      hmisses.not_delivers h hstep hdelivers
    exact (h.delivers hstep hmisses).right
  · intro ex e ex' h hstep hmisses
    exact (h.delivers hstep hmisses).left
  · intro ex e ex' h hstep hmisses
    exact hmisses.not_delivers h hstep

/-- A client that logs in with an account of one letter. -/
def asksFor (c : Addr) (letter : UInt8) (h : letter ≠ 0) : Event :=
  Event.accountWithAuth c
    { account := [letter]
      oneTimeKey := 1
      terminated := by
        rw [List.mem_singleton]
        exact h.symm
      fits := by
        rw [List.length_singleton]
        omega } (Vector.replicate 61 0)

theorem delivers_iff_avoids_misses_asked :
    AtEachStep Step initial Delivers
        [Event.clientConnected 1, asksFor 1 97 (by decide)] ↔
      Avoids Step initial Misses
        [Event.clientConnected 1, asksFor 1 97 (by decide)] :=
  delivers_iff_avoids_misses
    (Run.snoc (Run.snoc Run.nil ⟨_, _, rfl, rfl⟩) ⟨_, _, rfl, rfl⟩)

/-- A client that leaves while it waits stays in the map. -/
theorem not_delivers_left :
    ¬forall (history : List Event) (ex : Exchange),
      Run Step initial history ex ->
        AtEachStep Step initial Delivers history := by
  intro h
  let earlier : List Event :=
    [Event.clientConnected 1, asksFor 1 97 (by decide)]
  have hasked : exists ex session, Run Step initial earlier ex ∧
      ex.game.pendingClients [97] = some 1 ∧
      ex.game.clientSessions 1 = some session :=
    ⟨_, _, Run.snoc (Run.snoc Run.nil ⟨_, _, rfl, rfl⟩) ⟨_, _, rfl, rfl⟩,
      rfl, rfl⟩
  rcases hasked with ⟨ex, session, hrun, hpending, hsession⟩
  have hstep : Step ex (Event.clientDisconnected 1) _ :=
    ⟨_, _, Option.bind_eq_some_iff.mpr ⟨session, hsession, rfl⟩, rfl⟩
  have hdelivers := h _ _ (Run.snoc hrun hstep) earlier
    (Event.clientDisconnected 1) [] _ _ rfl hrun hstep
  exact not_live_of_left hpending hstep hdelivers.live

end Exchange

end Game
end Rzu
