import Rzu.Library.Run
import Rzu.Game.LobbyHandler

/-!
# Null characters in the lobby

The handler dereferences a null character exactly if a client logs in with a
character that the list does not have, or if an entry is read out of which the
character has been moved.
-/

namespace Rzu
namespace Game

open Library Packet Database

/-!
## Searches
-/

/-- A character with the name comes before every null entry. -/
def Finds (name : CharString) (characters : List (Option CharacterLight)) :
    Prop :=
  exists before character after,
    characters = List.map some before ++ some character :: after ∧
      character.name = name

theorem not_finds_nil (name : CharString) : ¬Finds name [] := by
  rintro ⟨before, character, after, heq, -⟩
  simp at heq

theorem not_finds_null (name : CharString)
    (rest : List (Option CharacterLight)) : ¬Finds name (none :: rest) := by
  rintro ⟨before, character, after, heq, -⟩
  cases before with
  | nil => cases heq
  | cons first before => cases heq

theorem finds_cons_iff {name : CharString} {character : CharacterLight}
    {rest : List (Option CharacterLight)} :
    Finds name (some character :: rest) ↔
      character.name = name ∨ Finds name rest := by
  constructor
  · rintro ⟨before, other, after, heq, hname⟩
    cases before with
    | nil =>
        cases heq
        exact Or.inl hname
    | cons first before =>
        cases heq
        exact Or.inr ⟨before, other, after, rfl, hname⟩
  · rintro (hname | ⟨before, other, after, rfl, hname⟩)
    · exact ⟨[], character, rest, rfl, hname⟩
    · exact ⟨character :: before, other, after, rfl, hname⟩

theorem hasCharacter_eq_none_iff (name : CharString)
    (characters : List (Option CharacterLight)) :
    hasCharacter name characters = none ↔
      none ∈ characters ∧ ¬Finds name characters := by
  induction characters with
  | nil => simp [hasCharacter]
  | cons entry rest ih =>
      cases entry with
      | none => simp [hasCharacter, not_finds_null]
      | some character =>
          rw [hasCharacter, finds_cons_iff]
          by_cases hname : name = character.name
          · simp [hname]
          · rw [if_neg hname, ih]
            simp [Ne.symm hname]

theorem selectCharacter_eq_none_iff (name : CharString)
    (characters : List (Option CharacterLight)) :
    (selectCharacter name characters).bind Prod.fst = none ↔
      ¬Finds name characters := by
  induction characters with
  | nil => simp [selectCharacter, not_finds_nil]
  | cons entry rest ih =>
      cases entry with
      | none => simp [selectCharacter, not_finds_null]
      | some character =>
          rw [selectCharacter, finds_cons_iff]
          by_cases hname : name = character.name
          · simp [hname]
          · rw [if_neg hname, Option.bind_map]
            simpa [Ne.symm hname, Function.comp_def] using ih

theorem addCharacters_eq_none_iff (wearInfoResults : List CharacterWearInfo)
    (characters : List (Option CharacterLight))
    (sofar : TS_SC_CHARACTER_LIST × CharString) :
    addCharacters wearInfoResults sofar characters = none ↔
      none ∈ characters := by
  induction characters generalizing sofar with
  | nil => simp [addCharacters]
  | cons entry rest ih =>
      cases entry with
      | none => simp [addCharacters]
      | some character => simp [addCharacters, ih]

/-!
## Sessions
-/

namespace LobbySession

def Step (s : LobbySession) (e : LobbyEvent) (s' : LobbySession) : Prop :=
  s.handle e = some s'

/-- What an event does with a list that has null entries, or lacks a name. -/
def Dereferences (s : LobbySession) : LobbyEvent -> Prop
  | .packet _ (.login name) =>
      exists h, s.connectionHandler = some h ∧ ¬Finds name h.characters
  | .packet _ (.deleteCharacter name) =>
      exists h, s.connectionHandler = some h ∧
        none ∈ h.characters ∧ ¬Finds name h.characters
  | .done j status =>
      exists h job accountId, s.connectionHandler = some h ∧
        h.lobbyQueries[j]? = some job ∧ status ≠ JobStatus.canceled ∧
        job.query = LobbyQuery.characterWearInfo accountId ∧
        none ∈ h.characters
  | _ => False

variable {s : LobbySession} {h : LobbyHandler}

theorem onCharacterLogin_eq_none_iff (s : LobbySession)
    (around : LobbySurroundings) (h : LobbyHandler) (name : CharString) :
    s.onCharacterLogin around h name = none ↔ ¬Finds name h.characters := by
  rw [← selectCharacter_eq_none_iff, onCharacterLogin]
  cases hselected : selectCharacter name h.characters with
  | none => simp
  | some selected =>
      cases hcharacter : selected.1 with
      | none => simp [hcharacter]
      | some character =>
          simp only [hcharacter, Option.bind_eq_bind, Option.bind_some]
          split <;> simp

theorem onDeleteCharacter_eq_none_iff (s : LobbySession) (h : LobbyHandler)
    (name : CharString) :
    s.onDeleteCharacter h name = none ↔
      none ∈ h.characters ∧ ¬Finds name h.characters := by
  rw [onDeleteCharacter, Option.map_eq_none_iff, hasCharacter_eq_none_iff]

theorem onQueryDone_eq_none_iff (s : LobbySession) (h : LobbyHandler)
    (job : LobbyJob) :
    s.onQueryDone h job = none ↔
      exists accountId,
        job.query = LobbyQuery.characterWearInfo accountId ∧
          none ∈ h.characters := by
  rw [onQueryDone]
  cases job.query with
  | characterWearInfo accountId =>
      simp [onCharacterWearInfoResult, listCharacters,
        addCharacters_eq_none_iff]
  | characterLight accountId => simp
  | checkCharacterName name => simp
  | createCharacter input => simp
  | deleteCharacter name => simp

theorem handle_eq_none_iff (s : LobbySession) (e : LobbyEvent) :
    s.handle e = none ↔ s.Dereferences e := by
  cases e with
  | packet around packet =>
      cases hhandler : s.connectionHandler with
      | none => cases packet <;> simp [handle, Dereferences, hhandler]
      | some h =>
          cases packet with
          | login name =>
              simp [handle, Dereferences, hhandler, onPacketReceived,
                onCharacterLogin_eq_none_iff]
          | deleteCharacter name =>
              simp [handle, Dereferences, hhandler, onPacketReceived,
                onDeleteCharacter_eq_none_iff]
          | characterList =>
              simp [handle, Dereferences, hhandler, onPacketReceived]
          | checkCharacterName receivedId name =>
              simp [handle, Dereferences, hhandler, onPacketReceived]
          | createCharacter character =>
              simp [handle, Dereferences, hhandler, onPacketReceived]
  | processed j answer => simp [handle, Dereferences]
  | done j status =>
      cases hhandler : s.connectionHandler with
      | none => simp [handle, onDone, Dereferences, hhandler]
      | some h =>
          cases hjob : h.lobbyQueries[j]? with
          | none => simp [handle, onDone, Dereferences, hhandler, hjob]
          | some job =>
              by_cases hstatus : status = JobStatus.canceled
              · simp [handle, onDone, Dereferences, hhandler, hjob, hstatus]
              · simp [handle, onDone, Dereferences, hhandler, hjob, hstatus,
                  onQueryDone_eq_none_iff]
  | closed => simp [handle, Dereferences]

/--
For every order of packets and results, no null character is dereferenced
exactly if no event meets a list like that.
-/
theorem survives_iff (account : CharString) (accountId : Nat) (itemSid : Int)
    (events : List LobbyEvent) :
    (events.foldlM handle (login account accountId itemSid)).isSome ↔
      Avoids Step (login account accountId itemSid) Dereferences events :=
  isSome_foldlM_iff_avoids handle_eq_none_iff _ events

/-- The database and the game know nothing of these names. -/
def quiet : LobbySurroundings where
  checkTextAgainstEncoding _ := true
  isWordBanned _ := false
  isLoggedIn _ := false

def character (name : CharString) : CharacterLight where
  sid := 1
  name := name
  race := 3
  sex := 1
  lv := 1
  jlv := 1
  hp := 100
  mp := 100
  job := 100
  permission := 0
  skin_color := 0
  model := [1, 2, 3, 4, 5]
  hair_color_index := 0
  hair_color_rgb := 0
  hide_equip_flag := 0
  texture_id := 0
  create_time := []
  login_time := []

/-- The list has one character, and the client logs in with another one. -/
theorem not_survives_unknown :
    ¬([LobbyEvent.packet quiet LobbyPacket.characterList,
      LobbyEvent.processed 0 { characters := [character [65, 65, 65, 65]] },
      LobbyEvent.done 0 JobStatus.ok,
      LobbyEvent.packet quiet (LobbyPacket.login [66, 66, 66, 66])].foldlM
        handle (login [97] 1 1)).isSome := by
  intro hsome
  cases hsome

/-!
## Open sessions
-/

/-- Characters are moved out of a list that is kept only before an abort. -/
def Intact (s : LobbySession) : Prop :=
  forall h, s.connectionHandler = some h -> none ∈ h.characters ->
    s.aborted = true

theorem Intact.withHandler (hintact : s.Intact)
    (hhandler : s.connectionHandler = some h) {h' : LobbyHandler}
    (hcharacters : h'.characters = h.characters) :
    (s.withHandler h').Intact := by
  intro h'' heq hnull
  cases heq
  rw [hcharacters] at hnull
  exact hintact h hhandler hnull

theorem Intact.sendPacket (hintact : s.Intact) (message : LobbyMessage) :
    (s.sendPacket message).Intact := by
  rw [LobbySession.sendPacket]
  split
  · exact hintact
  · exact hintact

theorem intact_of_aborted (haborted : s.aborted = true) : s.Intact :=
  fun _ _ _ => haborted

theorem intact_leaveLobby (s : LobbySession) : s.leaveLobby.Intact := by
  intro h hhandler
  rw [leaveLobby] at hhandler
  split at hhandler
  · rename_i hnone
    rw [hnone] at hhandler
    cases hhandler
  · cases hhandler

theorem intact_lobbyExitResult (s : LobbySession) (result : TS_ResultCode)
    (characterData : Option CharacterLight) :
    (s.lobbyExitResult result characterData).Intact := by
  rw [lobbyExitResult]
  split
  · exact intact_of_aborted rfl
  · exact intact_leaveLobby s

section Handlers

variable (hintact : s.Intact) (hhandler : s.connectionHandler = some h)
include hintact hhandler

theorem Intact.onCheckCharacterName (around : LobbySurroundings)
    (receivedId : Nat) (name : CharString) :
    (s.onCheckCharacterName around h receivedId name).Intact := by
  have hcleared : (s.withHandler { h with
      lastValidatedCharacterName := [] }).Intact :=
    hintact.withHandler hhandler rfl
  rw [LobbySession.onCheckCharacterName]
  split
  · exact hcleared.sendPacket _
  · split
    · exact hcleared.sendPacket _
    · split
      · exact hcleared.sendPacket _
      · exact hcleared.withHandler rfl rfl

theorem Intact.onCreateCharacter (info : LOBBY_CHARACTER_INFO) :
    (s.onCreateCharacter h info).Intact := by
  rw [LobbySession.onCreateCharacter]
  split
  · exact hintact.sendPacket _
  · split
    · exact hintact.sendPacket _
    · split
      · exact hintact.sendPacket _
      · split
        · exact hintact.sendPacket _
        · exact hintact.withHandler hhandler rfl

theorem Intact.onPacketReceived {around : LobbySurroundings}
    {packet : LobbyPacket} {s' : LobbySession}
    (hstep : s.onPacketReceived around h packet = some s') : s'.Intact := by
  cases packet with
  | characterList =>
      cases hstep
      exact hintact.withHandler hhandler rfl
  | login name =>
      rw [LobbySession.onPacketReceived, onCharacterLogin,
        Option.bind_eq_bind, Option.bind_eq_some_iff] at hstep
      rcases hstep with ⟨selected, -, hstep⟩
      rw [Option.bind_eq_bind, Option.bind_eq_some_iff] at hstep
      rcases hstep with ⟨found, -, hstep⟩
      split at hstep
      · cases hstep
        exact intact_lobbyExitResult _ _ _
      · cases hstep
        exact intact_lobbyExitResult _ _ _
  | checkCharacterName receivedId name =>
      cases hstep
      exact hintact.onCheckCharacterName hhandler around receivedId name
  | createCharacter info =>
      cases hstep
      exact hintact.onCreateCharacter hhandler info
  | deleteCharacter name =>
      rcases Option.map_eq_some_iff.mp hstep with ⟨found, -, rfl⟩
      split
      · exact hintact.withHandler hhandler rfl
      · exact hintact.sendPacket _

theorem Intact.onQueryDone {job : LobbyJob} {s' : LobbySession}
    (hstep : s.onQueryDone h job = some s') : s'.Intact := by
  rw [LobbySession.onQueryDone] at hstep
  split at hstep
  · cases hstep
    intro h' heq hnull
    cases heq
    simp [LobbyHandler.executeDbQuery] at hnull
  · rcases Option.map_eq_some_iff.mp hstep with ⟨list, -, rfl⟩
    exact hintact.sendPacket _
  · cases hstep
    rw [onCheckCharacterNameExistsResult]
    split
    · exact (hintact.sendPacket _).withHandler (h := h) (by
        rw [LobbySession.sendPacket]
        split <;> exact hhandler) rfl
    · exact hintact.sendPacket _
  · cases hstep
    rw [onCreateCharacterResult]
    split
    · exact hintact.sendPacket _
    · exact hintact.sendPacket _
  · cases hstep
    exact hintact.sendPacket _

end Handlers

theorem Intact.step {e : LobbyEvent} {s' : LobbySession} (hintact : s.Intact)
    (hstep : Step s e s') : s'.Intact := by
  cases e with
  | packet around packet =>
      rw [Step, handle] at hstep
      split at hstep
      · cases hstep
        exact hintact
      · rename_i h hhandler
        exact hintact.onPacketReceived hhandler hstep
  | processed j answer =>
      cases hstep
      rw [onProcess]
      split
      · exact hintact
      · rename_i h hhandler
        exact hintact.withHandler hhandler rfl
  | done j status =>
      rw [Step, handle, onDone] at hstep
      split at hstep
      · cases hstep
        exact hintact
      · rename_i h hhandler
        split at hstep
        · cases hstep
          exact hintact
        · have hlater : (s.withHandler { h with
              lobbyQueries := h.lobbyQueries.eraseIdx j }).Intact :=
            hintact.withHandler hhandler rfl
          split at hstep
          · cases hstep
            exact hlater
          · exact hlater.onQueryDone rfl hstep
  | closed =>
      cases hstep
      exact intact_leaveLobby s

theorem intact_of_run {account : CharString} {accountId : Nat} {itemSid : Int}
    {events : List LobbyEvent}
    (hrun : Run Step (login account accountId itemSid) events s) :
    s.Intact := by
  refine hrun.invariant ?_ fun hintact hstep => hintact.step hstep
  intro h heq hnull
  cases heq
  cases hnull

/-- Until an abort, only a login with an unknown name is to be feared. -/
theorem dereferences_iff_of_open {account : CharString} {accountId : Nat}
    {itemSid : Int} {events : List LobbyEvent}
    (hrun : Run Step (login account accountId itemSid) events s)
    (hopen : s.aborted = false) (e : LobbyEvent) :
    s.Dereferences e ↔
      exists around name h, e = LobbyEvent.packet around (.login name) ∧
        s.connectionHandler = some h ∧ ¬Finds name h.characters := by
  have hnone : forall h, s.connectionHandler = some h ->
      none ∉ h.characters := by
    intro h hhandler hnull
    rw [intact_of_run hrun h hhandler hnull] at hopen
    cases hopen
  constructor
  · intro hbad
    cases e with
    | packet around packet =>
        cases packet with
        | login name =>
            rcases hbad with ⟨h, hhandler, hunknown⟩
            exact ⟨around, name, h, rfl, hhandler, hunknown⟩
        | deleteCharacter name =>
            rcases hbad with ⟨h, hhandler, hnull, -⟩
            exact absurd hnull (hnone h hhandler)
        | characterList => exact absurd hbad id
        | checkCharacterName receivedId name => exact absurd hbad id
        | createCharacter info => exact absurd hbad id
    | processed j answer => exact absurd hbad id
    | done j status =>
        rcases hbad with ⟨h, job, _, hhandler, -, -, -, hnull⟩
        exact absurd hnull (hnone h hhandler)
    | closed => exact absurd hbad id
  · rintro ⟨around, name, h, rfl, hhandler, hunknown⟩
    exact ⟨h, hhandler, hunknown⟩

theorem dereferences_iff_of_open_listing :
    exists s, Run Step (login [97] 1 1)
        [LobbyEvent.packet quiet LobbyPacket.characterList] s ∧
      forall e, s.Dereferences e ↔
        exists around name h, e = LobbyEvent.packet around (.login name) ∧
          s.connectionHandler = some h ∧ ¬Finds name h.characters := by
  have hrun : Run Step (login [97] 1 1)
      [LobbyEvent.packet quiet LobbyPacket.characterList] _ :=
    Run.snoc Run.nil rfl
  exact ⟨_, hrun, dereferences_iff_of_open hrun rfl⟩

end LobbySession

end Game
end Rzu
