import Rzu.Game.LobbySafety

/-!
# The limit of characters

An account may own six characters.  The handler tests the limit against its
list, which creations and deletions do not change.
-/

namespace Rzu
namespace Game

open Library Packet Database

/-!
## Accounts
-/

/-- An account in the database, and the session that plays with it. -/
structure LobbyAccount where
  session : LobbySession
  owned : List CharacterLight

/--
What the database does with a query.  Rows are lost if reading fails; a
creation or a deletion may fail, and nothing limits the creations.
-/
inductive Performs (owned : List CharacterLight) :
    LobbyQuery -> Answer -> List CharacterLight -> Prop where
  | listed {accountId : Nat} {answer : Answer}
      (hrows : answer.characters <+: owned) :
      Performs owned (.characterLight accountId) answer owned
  | worn {accountId : Nat} {answer : Answer} :
      Performs owned (.characterWearInfo accountId) answer owned
  | checked {name : CharString} {answer : Answer} :
      Performs owned (.checkCharacterName name) answer owned
  | created {input : CreateCharacterInput} {answer : Answer}
      {character : CharacterLight} (hname : character.name = input.name)
      (hsid : answer.out_character_sid = character.sid) :
      Performs owned (.createCharacter input) answer (owned ++ [character])
  | notCreated {input : CreateCharacterInput} {answer : Answer} :
      Performs owned (.createCharacter input) answer owned
  | deleted {name : CharString} {answer : Answer} :
      Performs owned (.deleteCharacter name) answer
        (owned.filter fun character => character.name ≠ name)
  | notDeleted {name : CharString} {answer : Answer} :
      Performs owned (.deleteCharacter name) answer owned

/--
The labels: a packet, a query that is done, a close, and a worker at a query
of the handler or at one that has been canceled already.
-/
inductive AccountEvent where
  | packet (around : LobbySurroundings) (packet : LobbyPacket)
  | done (j : Nat) (status : JobStatus)
  | closed
  | performed (j : Nat) (answer : Answer) (owned : List CharacterLight)
  | performedLate (j : Nat) (answer : Answer) (owned : List CharacterLight)

/-- Whether a worker is at a query, and nothing else happens. -/
def AccountEvent.IsWork : AccountEvent -> Prop
  | .performed _ _ _ => True
  | .performedLate _ _ _ => True
  | _ => False

def AccountEvent.heard : AccountEvent -> Option LobbyEvent
  | .packet around p => some (.packet around p)
  | .done j status => some (.done j status)
  | .closed => some .closed
  | .performed _ _ _ => none
  | .performedLate _ _ _ => none

namespace LobbyAccount

def Step (a : LobbyAccount) (e : AccountEvent) (a' : LobbyAccount) : Prop :=
  match e with
  | .performed j answer owned =>
      exists h job, a.session.connectionHandler = some h ∧
        h.lobbyQueries[j]? = some job ∧ job.answer = none ∧
        Performs a.owned job.query answer owned ∧
        a' = ⟨a.session.onProcess j answer, owned⟩
  | .performedLate j answer owned =>
      exists job, a.session.canceledQueries[j]? = some job ∧
        job.answer = none ∧ Performs a.owned job.query answer owned ∧
        a' = ⟨{ a.session with
          canceledQueries := a.session.canceledQueries.eraseIdx j }, owned⟩
  | e => exists event session, e.heard = some event ∧
      a.session.handle event = some session ∧ a' = ⟨session, a.owned⟩

/-- The workers go on with what has been asked for. -/
def Work (a : LobbyAccount) (e : AccountEvent) (a' : LobbyAccount) : Prop :=
  a.Step e a' ∧ e.IsWork

/--
The account owns six characters at most, whatever becomes of the queries that
the database has not performed yet.
-/
def Limited (a : LobbyAccount) : Prop :=
  forall events a', Run Work a events a' -> a'.owned.length ≤ 6

/-- The tests that a request to create a character has to pass. -/
def Accepts (h : LobbyHandler) (character : LOBBY_CHARACTER_INFO) : Prop :=
  character.name = h.lastValidatedCharacterName ∧ h.inProgress = false ∧
    h.charactersPopulated = true ∧ h.characters.length < 6

/-- A request passes the tests, but the account has no place left. -/
def Overfills (a : LobbyAccount) : AccountEvent -> Prop
  | .packet _ (.createCharacter character) =>
      exists h, a.session.connectionHandler = some h ∧
        Accepts h character ∧ 6 ≤ a.owned.length
  | _ => False

end LobbyAccount

/-!
## Requests that are pending
-/

def LobbyQuery.creations : LobbyQuery -> Nat
  | .createCharacter _ => 1
  | _ => 0

/-- A creation that the database has not performed. -/
def LobbyJob.creations (job : LobbyJob) : Nat :=
  if job.answer.isNone then job.query.creations else 0

def creations : List LobbyJob -> Nat
  | [] => 0
  | job :: jobs => job.creations + creations jobs

theorem creations_append (front back : List LobbyJob) :
    creations (front ++ back) = creations front + creations back := by
  induction front with
  | nil => simp [creations]
  | cons job front ih =>
      rw [List.cons_append, creations, creations, ih, Nat.add_assoc]

theorem creations_eraseIdx {jobs : List LobbyJob} {j : Nat} {job : LobbyJob}
    (hjob : jobs[j]? = some job) :
    creations (jobs.eraseIdx j) + job.creations = creations jobs := by
  induction jobs generalizing j with
  | nil => cases hjob
  | cons first jobs ih =>
      cases j with
      | zero =>
          cases hjob
          rw [List.eraseIdx_cons_zero, creations, Nat.add_comm]
      | succ j =>
          rw [List.eraseIdx_cons_succ, creations, creations, Nat.add_assoc,
            ih hjob]

theorem creations_modify {jobs : List LobbyJob} {j : Nat} {job : LobbyJob}
    (hjob : jobs[j]? = some job) (answer : Answer) :
    creations (jobs.modify j fun job => { job with answer := some answer }) +
      job.creations = creations jobs := by
  induction jobs generalizing j with
  | nil => cases hjob
  | cons first jobs ih =>
      cases j with
      | zero =>
          cases hjob
          rw [List.modify_zero_cons, creations, creations, Nat.add_comm]
          simp [LobbyJob.creations]
      | succ j =>
          rw [List.modify_succ_cons, creations, creations, Nat.add_assoc,
            ih hjob]

theorem Performs.length_le {owned owned' : List CharacterLight}
    {query : LobbyQuery} {answer : Answer}
    (h : Performs owned query answer owned') :
    owned'.length ≤ owned.length + query.creations := by
  cases h with
  | listed hrows => exact Nat.le_refl _
  | worn => exact Nat.le_refl _
  | checked => exact Nat.le_refl _
  | created hname hsid =>
      rw [List.length_append]
      exact Nat.le_refl _
  | notCreated => exact Nat.le_succ _
  | deleted => exact List.length_filter_le _ _
  | notDeleted => exact Nat.le_refl _

namespace LobbySession

def handlerQueries (s : LobbySession) : List LobbyJob :=
  match s.connectionHandler with
  | none => []
  | some h => h.lobbyQueries

/-- The creations that the database may still perform. -/
def pending (s : LobbySession) : Nat :=
  creations s.handlerQueries + creations s.canceledQueries

/-- Queries are canceled when the handler goes. -/
def Settled (s : LobbySession) : Prop :=
  s.connectionHandler = none ∨ s.canceledQueries = []

/-!
## Effects of events
-/

def Asks (s : LobbySession) (queries : List LobbyJob) (s' : LobbySession) :
    Prop :=
  (exists h, s'.connectionHandler = some h ∧ h.lobbyQueries = queries) ∧
    s'.canceledQueries = s.canceledQueries

/-- The handler goes, or the same creations are pending. -/
def Relieves (s s' : LobbySession) : Prop :=
  (s.Settled -> s'.Settled) ∧ s'.pending ≤ s.pending

variable {s s' s'' : LobbySession} {h h' : LobbyHandler}

theorem Relieves.refl (s : LobbySession) : s.Relieves s :=
  ⟨id, Nat.le_refl _⟩

theorem Relieves.trans (hfirst : s.Relieves s') (hlast : s'.Relieves s'') :
    s.Relieves s'' :=
  ⟨hlast.1 ∘ hfirst.1, Nat.le_trans hlast.2 hfirst.2⟩

theorem pending_of_handler (hhandler : s.connectionHandler = some h) :
    s.pending = creations h.lobbyQueries + creations s.canceledQueries := by
  rw [pending, handlerQueries, hhandler]

theorem Asks.pending_eq {queries : List LobbyJob} (hasks : s.Asks queries s') :
    s'.pending = creations queries + creations s.canceledQueries := by
  rcases hasks with ⟨⟨h, hhandler, hqueries⟩, hcanceled⟩
  rw [pending_of_handler hhandler, hqueries, hcanceled]

theorem Asks.settled {queries : List LobbyJob} (hasks : s.Asks queries s')
    (hcanceled : s.canceledQueries = []) : s'.Settled :=
  Or.inr (hasks.2.trans hcanceled)

theorem Settled.canceledQueries_eq (hsettled : s.Settled)
    (hhandler : s.connectionHandler = some h) : s.canceledQueries = [] := by
  rcases hsettled with hnone | hcanceled
  · rw [hnone] at hhandler
    cases hhandler
  · exact hcanceled

theorem Asks.relieves {queries : List LobbyJob} (hasks : s.Asks queries s')
    (hhandler : s.connectionHandler = some h)
    (hle : creations queries ≤ creations h.lobbyQueries) : s.Relieves s' := by
  refine ⟨fun hsettled =>
    hasks.settled (hsettled.canceledQueries_eq hhandler), ?_⟩
  rw [hasks.pending_eq, pending_of_handler hhandler]
  exact Nat.add_le_add_right hle _

theorem asks_withHandler (s : LobbySession) (h : LobbyHandler) :
    s.Asks h.lobbyQueries (s.withHandler h) :=
  ⟨⟨h, rfl, rfl⟩, rfl⟩

theorem Asks.sendPacket {queries : List LobbyJob} (hasks : s.Asks queries s')
    (message : LobbyMessage) : s.Asks queries (s'.sendPacket message) := by
  rw [LobbySession.sendPacket]
  split
  · exact hasks
  · exact hasks

theorem asks_sendPacket (hhandler : s.connectionHandler = some h)
    (message : LobbyMessage) :
    s.Asks h.lobbyQueries (s.sendPacket message) :=
  Asks.sendPacket ⟨⟨h, hhandler, rfl⟩, rfl⟩ message

theorem creations_executeDbQuery (h : LobbyHandler) (query : LobbyQuery) :
    creations (h.executeDbQuery query).lobbyQueries =
      creations h.lobbyQueries + query.creations := by
  rw [LobbyHandler.executeDbQuery, creations_append, creations, creations]
  rfl

theorem relieves_leaveLobby (s : LobbySession) : s.Relieves s.leaveLobby := by
  rw [leaveLobby]
  split
  · exact Relieves.refl s
  · rename_i h hhandler
    refine ⟨fun _ => Or.inl rfl, ?_⟩
    rw [pending_of_handler hhandler, pending, handlerQueries,
      creations_append, creations]
    exact Nat.le_of_eq (by lia)

theorem relieves_lobbyExitResult (hhandler : s.connectionHandler = some h)
    (result : TS_ResultCode) (characterData : Option CharacterLight) :
    s.Relieves (s.lobbyExitResult result characterData) := by
  rw [lobbyExitResult]
  split
  · rcases asks_sendPacket hhandler (LobbyMessage.loginResult result) with
      ⟨hqueries, hcanceled⟩
    exact Asks.relieves ⟨hqueries, hcanceled⟩ hhandler (Nat.le_refl _)
  · exact relieves_leaveLobby s

theorem relieves_onCheckCharacterName
    (hhandler : s.connectionHandler = some h) (around : LobbySurroundings)
    (receivedId : Nat) (name : CharString) :
    s.Relieves (s.onCheckCharacterName around h receivedId name) := by
  have hcleared := asks_withHandler s
    { h with lastValidatedCharacterName := [] }
  rw [onCheckCharacterName]
  split
  · exact (hcleared.sendPacket _).relieves hhandler (Nat.le_refl _)
  · split
    · exact (hcleared.sendPacket _).relieves hhandler (Nat.le_refl _)
    · split
      · exact (hcleared.sendPacket _).relieves hhandler (Nat.le_refl _)
      · refine (asks_withHandler s _).relieves hhandler ?_
        rw [creations_executeDbQuery]
        exact Nat.le_refl _

theorem asks_onCreateCharacter {info : LOBBY_CHARACTER_INFO}
    (haccepts : LobbyAccount.Accepts h info) (s : LobbySession) :
    s.Asks (h.lobbyQueries ++ [⟨.createCharacter
        (s.createCharacterInput h.characters.length info), none⟩])
      (s.onCreateCharacter h info) := by
  rcases haccepts with ⟨hname, hprogress, hpopulated, hroom⟩
  rw [onCreateCharacter, if_neg (not_not.mpr hname),
    if_neg (by simp [hprogress]), if_neg (by simp [hpopulated]),
    if_neg (Nat.not_le.mpr hroom)]
  exact ⟨⟨_, rfl, rfl⟩, rfl⟩

theorem relieves_onCreateCharacter (hhandler : s.connectionHandler = some h)
    {info : LOBBY_CHARACTER_INFO}
    (hrejects : ¬LobbyAccount.Accepts h info) :
    s.Relieves (s.onCreateCharacter h info) := by
  have hreply : forall message, s.Relieves (s.sendPacket message) :=
    fun message =>
      (asks_sendPacket hhandler message).relieves hhandler (Nat.le_refl _)
  rw [onCreateCharacter]
  split
  · exact hreply _
  · rename_i hname
    split
    · exact hreply _
    · rename_i hprogress
      split
      · exact hreply _
      · rename_i hpopulated
        split
        · exact hreply _
        · rename_i hroom
          exact absurd ⟨not_not.mp hname, by simpa using hprogress,
            by simpa using hpopulated, Nat.lt_of_not_le hroom⟩ hrejects

theorem relieves_onPacketReceived (hhandler : s.connectionHandler = some h)
    {around : LobbySurroundings} {packet : LobbyPacket}
    (hrejects : forall info, packet = .createCharacter info ->
      ¬LobbyAccount.Accepts h info)
    (hstep : s.onPacketReceived around h packet = some s') :
    s.Relieves s' := by
  cases packet with
  | characterList =>
      cases hstep
      refine (asks_withHandler s _).relieves hhandler ?_
      rw [creations_executeDbQuery]
      exact Nat.le_refl _
  | login name =>
      rw [onPacketReceived, onCharacterLogin, Option.bind_eq_bind,
        Option.bind_eq_some_iff] at hstep
      rcases hstep with ⟨selected, -, hstep⟩
      rw [Option.bind_eq_bind, Option.bind_eq_some_iff] at hstep
      rcases hstep with ⟨found, -, hstep⟩
      have hmoved := (asks_withHandler s
        { h with characters := selected.2 }).relieves hhandler (Nat.le_refl _)
      split at hstep
      · cases hstep
        exact hmoved.trans (relieves_lobbyExitResult rfl _ _)
      · cases hstep
        exact hmoved.trans (relieves_lobbyExitResult rfl _ _)
  | checkCharacterName receivedId name =>
      cases hstep
      exact relieves_onCheckCharacterName hhandler around receivedId name
  | createCharacter info =>
      cases hstep
      exact relieves_onCreateCharacter hhandler (hrejects info rfl)
  | deleteCharacter name =>
      rcases Option.map_eq_some_iff.mp hstep with ⟨found, -, rfl⟩
      split
      · refine (asks_withHandler s _).relieves hhandler ?_
        rw [creations_executeDbQuery]
        exact Nat.le_refl _
      · exact (asks_sendPacket hhandler _).relieves hhandler (Nat.le_refl _)

theorem relieves_onQueryDone (hhandler : s.connectionHandler = some h)
    {job : LobbyJob} (hstep : s.onQueryDone h job = some s') :
    s.Relieves s' := by
  have hreply : forall message, s.Relieves (s.sendPacket message) :=
    fun message =>
      (asks_sendPacket hhandler message).relieves hhandler (Nat.le_refl _)
  rw [onQueryDone] at hstep
  split at hstep
  · cases hstep
    refine (asks_withHandler s _).relieves hhandler ?_
    rw [creations_executeDbQuery]
    exact Nat.le_refl _
  · rcases Option.map_eq_some_iff.mp hstep with ⟨list, -, rfl⟩
    exact hreply _
  · cases hstep
    rw [onCheckCharacterNameExistsResult]
    split
    · rcases asks_sendPacket hhandler (LobbyMessage.result
          TS_CS_CHECK_CHARACTER_NAME.packetID TS_ResultCode.success 0) with
        ⟨-, hcanceled⟩
      exact Asks.relieves ⟨⟨_, rfl, rfl⟩, hcanceled⟩ hhandler (Nat.le_refl _)
    · exact hreply _
  · cases hstep
    rw [onCreateCharacterResult]
    split
    · exact hreply _
    · exact hreply _
  · cases hstep
    exact hreply _

theorem relieves_onDone {j : Nat} {status : JobStatus}
    (hstep : s.onDone j status = some s') : s.Relieves s' := by
  rw [onDone] at hstep
  split at hstep
  · cases hstep
    exact Relieves.refl s
  · rename_i h hhandler
    split at hstep
    · cases hstep
      exact Relieves.refl s
    · rename_i job hjob
      have herased := (asks_withHandler s
        { h with lobbyQueries := h.lobbyQueries.eraseIdx j }).relieves hhandler
          (Nat.le_trans (Nat.le_add_right _ _)
            (Nat.le_of_eq (creations_eraseIdx hjob)))
      split at hstep
      · cases hstep
        exact herased
      · exact herased.trans (relieves_onQueryDone rfl hstep)

end LobbySession

namespace LobbyAccount

variable {a a' : LobbyAccount} {e : AccountEvent}

/-!
## Steps
-/

theorem step_deterministic : Deterministic Step := by
  intro a e a' a'' hstep hstep'
  cases e with
  | performed j answer owned =>
      rcases hstep with ⟨h, job, -, -, -, -, rfl⟩
      rcases hstep' with ⟨h', job', -, -, -, -, rfl⟩
      rfl
  | performedLate j answer owned =>
      rcases hstep with ⟨job, -, -, -, rfl⟩
      rcases hstep' with ⟨job', -, -, -, rfl⟩
      rfl
  | packet around p =>
      rcases hstep with ⟨event, session, hheard, hhandle, rfl⟩
      rcases hstep' with ⟨event', session', hheard', hhandle', rfl⟩
      cases hheard
      cases hheard'
      cases hhandle.symm.trans hhandle'
      rfl
  | done j status =>
      rcases hstep with ⟨event, session, hheard, hhandle, rfl⟩
      rcases hstep' with ⟨event', session', hheard', hhandle', rfl⟩
      cases hheard
      cases hheard'
      cases hhandle.symm.trans hhandle'
      rfl
  | closed =>
      rcases hstep with ⟨event, session, hheard, hhandle, rfl⟩
      rcases hstep' with ⟨event', session', hheard', hhandle', rfl⟩
      cases hheard
      cases hheard'
      cases hhandle.symm.trans hhandle'
      rfl

/-- There is a place for every creation that is pending. -/
structure Within (a : LobbyAccount) : Prop where
  settled : a.session.Settled
  room : a.owned.length + a.session.pending ≤ 6

theorem Within.relieves {session : LobbySession} (hwithin : a.Within)
    (hrelieves : a.session.Relieves session) :
    Within ⟨session, a.owned⟩ where
  settled := hrelieves.1 hwithin.settled
  room := Nat.le_trans (Nat.add_le_add_left hrelieves.2 _) hwithin.room

theorem Within.work (hwithin : a.Within) (hstep : a.Work e a') :
    a'.Within := by
  rcases hstep with ⟨hstep, hwork⟩
  cases e with
  | performed j answer owned =>
      rcases hstep with ⟨h, job, hhandler, hjob, hanswer, hperforms, rfl⟩
      have hpending := LobbySession.pending_of_handler hhandler
      have hlength := hperforms.length_le
      have hmodified := creations_modify hjob answer
      have hcreations : job.creations = job.query.creations := by
        rw [LobbyJob.creations, hanswer]
        rfl
      have hroom := hwithin.room
      rw [LobbySession.onProcess, hhandler]
      constructor
      · exact Or.inr (hwithin.settled.canceledQueries_eq hhandler)
      · change owned.length + (creations (h.lobbyQueries.modify j _) +
          creations a.session.canceledQueries) ≤ 6
        lia
  | performedLate j answer owned =>
      rcases hstep with ⟨job, hjob, hanswer, hperforms, rfl⟩
      have hlength := hperforms.length_le
      have herased := creations_eraseIdx hjob
      have hcreations : job.creations = job.query.creations := by
        rw [LobbyJob.creations, hanswer]
        rfl
      have hroom := hwithin.room
      constructor
      · rcases hwithin.settled with hnone | hcanceled
        · exact Or.inl hnone
        · rw [hcanceled] at hjob
          cases hjob
      · change owned.length + (creations a.session.handlerQueries +
          creations (a.session.canceledQueries.eraseIdx j)) ≤ 6
        rw [LobbySession.pending] at hroom
        lia
  | packet around p => exact absurd hwork id
  | done j status => exact absurd hwork id
  | closed => exact absurd hwork id

theorem Within.limited (hwithin : a.Within) : a.Limited := by
  intro events a' hrun
  have hlater := hrun.invariant hwithin fun hkept hstep => hkept.work hstep
  exact Nat.le_trans (Nat.le_add_right _ _) hlater.room

theorem step_heard {event : LobbyEvent} {session : LobbySession}
    (hheard : e.heard = some event)
    (hhandle : a.session.handle event = some session) :
    a.Step e ⟨session, a.owned⟩ := by
  cases e with
  | performed j answer owned => cases hheard
  | performedLate j answer owned => cases hheard
  | packet around p => exact ⟨event, session, hheard, hhandle, rfl⟩
  | done j status => exact ⟨event, session, hheard, hhandle, rfl⟩
  | closed => exact ⟨event, session, hheard, hhandle, rfl⟩

theorem step_performed {h : LobbyHandler} {job : LobbyJob} (j : Nat)
    {answer : Answer} {owned : List CharacterLight}
    (hhandler : a.session.connectionHandler = some h)
    (hjob : h.lobbyQueries[j]? = some job) (hanswer : job.answer = none)
    (hperforms : Performs a.owned job.query answer owned) :
    a.Step (.performed j answer owned)
      ⟨a.session.onProcess j answer, owned⟩ :=
  ⟨h, job, hhandler, hjob, hanswer, hperforms, rfl⟩

theorem canceledQueries_of_accepts (hwithin : a.Within) {h : LobbyHandler}
    (hhandler : a.session.connectionHandler = some h)
    {info : LOBBY_CHARACTER_INFO} (haccepts : Accepts h info) :
    h.lobbyQueries = [] ∧ a.session.canceledQueries = [] := by
  have hidle := haccepts.2.1
  rw [LobbyHandler.inProgress, Bool.not_eq_false', List.isEmpty_iff] at hidle
  exact ⟨hidle, hwithin.settled.canceledQueries_eq hhandler⟩

theorem Within.packet (hwithin : a.Within) {around : LobbySurroundings}
    {p : LobbyPacket} {session : LobbySession}
    (hhandle : a.session.handle (.packet around p) = some session)
    (hroom : ¬a.Overfills (.packet around p)) :
    Within ⟨session, a.owned⟩ := by
  rw [LobbySession.handle] at hhandle
  split at hhandle
  · cases hhandle
    exact hwithin
  · rename_i h hhandler
    by_cases haccepts :
        exists info, p = .createCharacter info ∧ Accepts h info
    · rcases haccepts with ⟨info, rfl, haccepts⟩
      cases hhandle
      have howned : a.owned.length < 6 := by
        apply Nat.lt_of_not_le
        intro hfull
        exact hroom ⟨h, hhandler, haccepts, hfull⟩
      have hasks :=
        LobbySession.asks_onCreateCharacter haccepts a.session
      rcases canceledQueries_of_accepts hwithin hhandler haccepts with
        ⟨hqueries, hcanceled⟩
      constructor
      · exact hasks.settled hcanceled
      · have hpending := hasks.pending_eq
        rw [hqueries, hcanceled, List.nil_append] at hpending
        change a.owned.length +
          (a.session.onCreateCharacter h info).pending ≤ 6
        rw [hpending]
        exact howned
    · apply hwithin.relieves
      refine LobbySession.relieves_onPacketReceived hhandler ?_ hhandle
      intro info hp hinfo
      exact haccepts ⟨info, hp, hinfo⟩

theorem Within.step (hwithin : a.Within) (hstep : a.Step e a')
    (hroom : ¬a.Overfills e) : a'.Within := by
  cases e with
  | performed j answer owned => exact hwithin.work ⟨hstep, trivial⟩
  | performedLate j answer owned => exact hwithin.work ⟨hstep, trivial⟩
  | packet around p =>
      rcases hstep with ⟨event, session, hheard, hhandle, rfl⟩
      cases hheard
      exact hwithin.packet hhandle hroom
  | done j status =>
      rcases hstep with ⟨event, session, hheard, hhandle, rfl⟩
      cases hheard
      exact hwithin.relieves (LobbySession.relieves_onDone hhandle)
  | closed =>
      rcases hstep with ⟨event, session, hheard, hhandle, rfl⟩
      cases hheard
      cases hhandle
      exact hwithin.relieves (LobbySession.relieves_leaveLobby _)

/-- The character of a request, as the database keeps it. -/
def created (input : CreateCharacterInput) : CharacterLight where
  sid := 1
  name := input.name
  race := input.race
  sex := input.sex
  lv := input.level
  jlv := input.jlv
  hp := input.hp
  mp := input.mp
  job := 0
  permission := 0
  skin_color := input.skin_color
  model := input.model
  hair_color_index := input.hair_color_index
  hair_color_rgb := 0
  hide_equip_flag := 0
  texture_id := input.texture_id
  create_time := []
  login_time := []

/-- Nothing keeps the database from performing a request. -/
theorem Within.not_limited (hwithin : a.Within) (hstep : a.Step e a')
    (hbad : a.Overfills e) : ¬a'.Limited := by
  cases e with
  | packet around p =>
      cases p with
      | createCharacter info =>
          rcases hbad with ⟨h, hhandler, haccepts, hfull⟩
          rcases hstep with ⟨event, session, hheard, hhandle, rfl⟩
          cases hheard
          rw [LobbySession.handle, hhandler] at hhandle
          cases hhandle
          have hqueries :=
            (canceledQueries_of_accepts hwithin hhandler haccepts).1
          rcases LobbySession.asks_onCreateCharacter haccepts a.session with
            ⟨⟨h', hhandler', hqueries'⟩, -⟩
          rw [hqueries, List.nil_append] at hqueries'
          intro hlimited
          have hlength := hlimited
            [.performed 0 { out_character_sid := 1 } _] _
            (Run.snoc Run.nil ⟨⟨h', _, hhandler', by rw [hqueries']; rfl, rfl,
              @Performs.created _ _ _ (created
                (a.session.createCharacterInput h.characters.length info))
                rfl rfl, rfl⟩, trivial⟩)
          rw [List.length_append] at hlength
          exact absurd hlength (Nat.not_le.mpr (Nat.lt_succ_of_le hfull))
      | characterList => exact absurd hbad id
      | login name => exact absurd hbad id
      | checkCharacterName receivedId name => exact absurd hbad id
      | deleteCharacter name => exact absurd hbad id
  | performed j answer owned => exact absurd hbad id
  | performedLate j answer owned => exact absurd hbad id
  | done j status => exact absurd hbad id
  | closed => exact absurd hbad id

def login (account : CharString) (accountId : Nat) (itemSid : Int)
    (owned : List CharacterLight) : LobbyAccount :=
  ⟨LobbySession.login account accountId itemSid, owned⟩

/--
The limit is kept all along a run exactly if no request passes the tests of
the handler when the account has no place left.
-/
theorem limited_throughout_iff {account : CharString} {accountId : Nat}
    {itemSid : Int} {owned : List CharacterLight} (howned : owned.length ≤ 6)
    {history : List AccountEvent}
    (hrun : Run Step (login account accountId itemSid owned) history a) :
    Throughout Step (login account accountId itemSid owned) Limited history ↔
      Avoids Step (login account accountId itemSid owned) Overfills
        history := by
  have hstart : Within (login account accountId itemSid owned) :=
    ⟨Or.inr rfl, howned⟩
  exact throughout_iff_avoids_of_kept step_deterministic hstart
    Within.limited Within.step Within.not_limited hrun

def fourOf (letter : UInt8) : CharString := [letter, letter, letter, letter]

def fiveCharacters : List CharacterLight :=
  [65, 66, 67, 68, 69].map fun letter =>
    LobbySession.character (fourOf letter)

def request (name : CharString) : LOBBY_CHARACTER_INFO :=
  LOBBY_CHARACTER_INFO.ofCharacter (LobbySession.character name)

def listing (owned : List CharacterLight) : List AccountEvent :=
  [.packet LobbySession.quiet .characterList,
    .performed 0 { characters := owned } owned,
    .done 0 JobStatus.ok,
    .performed 0 {} owned,
    .done 0 JobStatus.ok]

/-- A name is checked, and a character is created with it. -/
def creation (name : CharString) (owned : List CharacterLight) :
    List AccountEvent :=
  [.packet LobbySession.quiet (.checkCharacterName 2006 name),
    .performed 0 {} owned,
    .done 0 JobStatus.ok,
    .packet LobbySession.quiet (.createCharacter (request name)),
    .performed 0 { out_character_sid := 1 }
      (owned ++ [LobbySession.character name]),
    .done 0 JobStatus.ok]

theorem limited_asked : exists a,
    Run Step (login [97] 1 1 fiveCharacters)
        [.packet LobbySession.quiet .characterList] a ∧
      (Throughout Step (login [97] 1 1 fiveCharacters) Limited
          [.packet LobbySession.quiet .characterList] ↔
        Avoids Step (login [97] 1 1 fiveCharacters) Overfills
          [.packet LobbySession.quiet .characterList]) := by
  have hasked := Run.snoc Run.nil (step_heard
    (a := login [97] 1 1 fiveCharacters)
    (e := .packet LobbySession.quiet .characterList) rfl rfl)
  exact ⟨_, hasked, limited_throughout_iff (by decide) hasked⟩

/--
Two names are checked and used without asking for the list again: the list has
five characters both times.
-/
theorem not_limited_twice : exists a,
    Run Step (login [97] 1 1 fiveCharacters)
      (listing fiveCharacters ++ creation (fourOf 70) fiveCharacters ++
        creation (fourOf 71)
          (fiveCharacters ++ [LobbySession.character (fourOf 70)])) a ∧
      fiveCharacters.length = 5 ∧ a.owned.length = 7 := by
  have hasked := Run.snoc Run.nil (step_heard
    (a := login [97] 1 1 fiveCharacters)
    (e := .packet LobbySession.quiet .characterList) rfl rfl)
  have hread := Run.snoc hasked (step_performed 0 rfl rfl rfl
    (@Performs.listed fiveCharacters 1 { characters := fiveCharacters }
      (List.prefix_refl _)))
  have hlisted := Run.snoc hread
    (step_heard (e := .done 0 JobStatus.ok) rfl rfl)
  have hworn := Run.snoc hlisted (step_performed 0 rfl rfl rfl
    (@Performs.worn fiveCharacters 1 {}))
  have hdone := Run.snoc hworn (step_heard (e := .done 0 JobStatus.ok) rfl rfl)
  have hcheck := Run.snoc hdone (step_heard
    (e := .packet LobbySession.quiet (.checkCharacterName 2006 (fourOf 70)))
    rfl rfl)
  have hfree := Run.snoc hcheck (step_performed 0 rfl rfl rfl
    (@Performs.checked _ _ {}))
  have hvalid := Run.snoc hfree
    (step_heard (e := .done 0 JobStatus.ok) rfl rfl)
  have hcreate := Run.snoc hvalid (step_heard (e := .packet
    LobbySession.quiet (.createCharacter (request (fourOf 70)))) rfl rfl)
  have hsixth := Run.snoc hcreate (step_performed 0 rfl rfl rfl
    (@Performs.created _ _ { out_character_sid := 1 }
      (LobbySession.character (fourOf 70)) rfl rfl))
  have hreply := Run.snoc hsixth
    (step_heard (e := .done 0 JobStatus.ok) rfl rfl)
  have hcheck' := Run.snoc hreply (step_heard
    (e := .packet LobbySession.quiet (.checkCharacterName 2006 (fourOf 71)))
    rfl rfl)
  have hfree' := Run.snoc hcheck' (step_performed 0 rfl rfl rfl
    (@Performs.checked _ _ {}))
  have hvalid' := Run.snoc hfree'
    (step_heard (e := .done 0 JobStatus.ok) rfl rfl)
  have hcreate' := Run.snoc hvalid' (step_heard (e := .packet
    LobbySession.quiet (.createCharacter (request (fourOf 71)))) rfl rfl)
  have hseventh := Run.snoc hcreate' (step_performed 0 rfl rfl rfl
    (@Performs.created _ _ { out_character_sid := 1 }
      (LobbySession.character (fourOf 71)) rfl rfl))
  have hreply' := Run.snoc hseventh
    (step_heard (e := .done 0 JobStatus.ok) rfl rfl)
  exact ⟨_, hreply', rfl, rfl⟩

end LobbyAccount

end Game
end Rzu
