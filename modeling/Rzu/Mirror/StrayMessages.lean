import Rzu.Mirror.PartyRoster

/-!
# Messages that parties do not follow

The parties that are kept follow every message of a run exactly if none of
them is of two kinds.
-/

namespace Rzu
namespace Mirror

open Library
open Core
open Packet

namespace LocalPlayerData

section Rosters

variable {m : Moment} {l l' : LocalPlayerData} {args : List CharString}
  {playerName name key : CharString}

/-!
## Whole messages
-/

/--
A message that the parties do not follow: a member gets another name, or one
leaves and the second argument, taken for the player's name, is it although
the first is not, or the other way round.
-/
def Strays (playerName : CharString) (l : LocalPlayerData)
    (packet : Record) : Prop :=
  (exists old new, eventOf packet = .rename old new ∧ old ≠ new ∧
    l.KnowsMember old) ∨
  (exists name, eventOf packet = .leave name ∧ l.KnowsMember name ∧
    ¬(playerName = name ↔ playerName = (argumentsOf packet).getD 2 []))

/-- A step that follows its message, and keeps names and keys together. -/
def FollowsMessage (playerName : CharString) (l : LocalPlayerData)
    (packet : Record) (l' : LocalPlayerData) : Prop :=
  l.roster.Follows playerName (eventOf packet) l'.roster ∧ l'.NamesAgree

theorem departs_of_leaveFound {self : Bool} {members : Set CharString}
    (hparty : l.roster key = some members) (hmember : name ∈ members)
    (hself : self = decide (playerName = name)) :
    l.roster.Departs playerName name (Function.update l.roster key
      (if self then none else some (members \ {name}))) := by
  by_cases hname : playerName = name
  · rw [hself, decide_eq_true hname, if_pos rfl]
    exact Roster.Departs.player hname.symm ⟨members, hparty, hmember⟩
  · rw [hself, decide_eq_false hname, if_neg Bool.false_ne_true]
    exact Roster.Departs.member (fun heq => hname heq.symm) hparty hmember

theorem departs_unknown (h : ¬l.KnowsMember name) :
    l.roster.Departs playerName name l.roster :=
  Roster.Departs.unknown fun party hmember =>
    h (roster_hasMember_iff.mp ⟨party, hmember⟩)

theorem eventOfCommand_other {command : CharString}
    (h : command ∉ [ascii "PINFO", ascii "CHANGE_NAME", ascii "LEAVE",
      ascii "KICK", ascii "DESTROY"]) :
    eventOfCommand args command = .other := by
  simp only [List.mem_cons, List.not_mem_nil, or_false, not_or] at h
  rcases h with ⟨hinfo, hrename, hleave, hkick, hdestroy⟩
  rw [eventOfCommand, if_neg fun hboth => hinfo hboth.left,
    if_neg fun hboth => hrename hboth.left,
    if_neg fun hboth => hleave hboth.left,
    if_neg fun hboth => hkick hboth.left,
    if_neg fun hboth => hdestroy hboth.left]

theorem follows_other {command : CharString} (hagree : l.NamesAgree)
    (hother : command ∉ [ascii "PINFO", ascii "CHANGE_NAME", ascii "LEAVE",
      ascii "KICK", ascii "DESTROY"]) {result : Except Fault LocalPlayerData}
    (h : Yields (SameRoster l) result) :
    Yields (fun l' => l.roster.Follows playerName
      (eventOfCommand args command) l'.roster ∧ l'.NamesAgree) result := by
  intro l' hok
  rw [eventOfCommand_other hother, (h l' hok).roster]
  exact ⟨Roster.Follows.other, (h l' hok).agree hagree⟩

theorem follows_onCommand {command : CharString} (hagree : l.NamesAgree)
    (hrename : forall old new,
      eventOfCommand args command = .rename old new -> l.KnowsMember old ->
      old = new)
    (hleave : forall name,
      eventOfCommand args command = .leave name -> l.KnowsMember name ->
      (playerName = name ↔ playerName = args.getD 2 [])) :
    Yields (fun l' => l.roster.Follows playerName
      (eventOfCommand args command) l'.roster ∧ l'.NamesAgree)
      (l.onCommand m args playerName command) := by
  refine yields_ite (fun h => follows_other hagree (by rw [h.left]; decide)
    sameRoster_onMINFO) fun _ => ?_
  refine yields_ite (fun h => follows_other hagree (by rw [h.left]; decide)
    sameRoster_onRMINFO) fun _ => ?_
  refine yields_ite (fun h => follows_other hagree (by rw [h.left]; decide)
    sameRoster_onMSINFO) fun _ => ?_
  refine yields_ite (fun h => follows_other hagree (by rw [h.left]; decide)
    sameRoster_onSINFO) fun _ => ?_
  refine yields_ite (fun h => ?_) fun hnotRename => ?_
  · have hevent : eventOfCommand args command =
        .rename (args.getD 1 []) (args.getD 2 []) := by
      rw [eventOfCommand,
        if_neg fun hboth => absurd (h.left.symm.trans hboth.left) (by decide),
        if_pos h]
    rw [hevent] at hrename ⊢
    intro l' hok
    rcases yields_onCHANGE_NAME l' hok with ⟨hkept, hcases⟩
    refine ⟨?_, hkept hagree⟩
    rcases hcases with ⟨rfl, hunknown⟩ | ⟨key, members, hparty, hmem, hroster⟩
    · exact Roster.Follows.renameUnknown fun party hmember =>
        hunknown (roster_hasMember_iff.mp ⟨party, hmember⟩)
    · have hsame := hrename _ _ rfl
        (roster_hasMember_iff.mp ⟨key, members, hparty, hmem⟩)
      have hback : insert (args.getD 1 []) (members \ {args.getD 1 []}) =
          members := by
        rw [Set.insert_sdiff_singleton, Set.insert_eq_of_mem hmem]
      have hfollows : l.roster.Follows playerName
          (.rename (args.getD 1 []) (args.getD 1 []))
          (Function.update l.roster key (some (insert (args.getD 1 [])
            (members \ {args.getD 1 []})))) :=
        Roster.Follows.rename hparty hmem (by rw [hback])
      rw [Set.insert_sdiff_singleton] at hfollows
      rw [hroster, ← hsame]
      exact hfollows
  refine yields_ite (fun h => follows_other hagree (by rw [h.left]; decide)
    sameRoster_onCHANGE_LEVEL) fun _ => ?_
  refine yields_ite (fun h => follows_other hagree (by rw [h.left]; decide)
    sameRoster_onCHANGE_JOB) fun _ => ?_
  refine yields_ite (fun h => follows_other hagree (by rw [h.left]; decide)
    sameRoster_onMODE) fun _ => ?_
  refine yields_ite (fun h => ?_) fun hnotInfo => ?_
  · have hevent : eventOfCommand args command =
        .info (args.getD 2 []) (memberNames args) := by
      rw [eventOfCommand, if_pos h]
    rw [hevent]
    intro l' hok
    rcases yields_onPINFO l' hok with ⟨hroster, hkept⟩
    rw [hroster]
    exact ⟨Roster.Follows.info _ _, hkept hagree⟩
  refine yields_ite (fun h => follows_other hagree (by rw [h.left]; decide)
    sameRoster_onLIST) fun _ => ?_
  refine yields_ite (fun h => follows_other hagree (by rw [h.left]; decide)
    sameRoster_setPositions) fun _ => ?_
  refine yields_ite (fun h => ?_) fun hnotKick => ?_
  · have hevent : eventOfCommand args command = .kick (args.getD 2 []) := by
      rw [eventOfCommand, if_neg hnotInfo, if_neg hnotRename,
        if_neg fun hboth => absurd (h.left.symm.trans hboth.left) (by decide),
        if_pos h]
    rw [hevent]
    refine yields_bind fun name hname => ?_
    rw [getD_of_arg hname]
    intro l' hok
    rcases yields_leaveFound hagree l' hok with ⟨hkept, hcases⟩
    refine ⟨Roster.Follows.kick ?_, hkept⟩
    rcases hcases with ⟨rfl, hunknown⟩ |
      ⟨key, members, self, hself, hparty, hmem, hroster⟩
    · exact departs_unknown hunknown
    · cases hself
      rw [hroster]
      exact departs_of_leaveFound hparty hmem rfl
  refine yields_ite (fun h => follows_other hagree (by rw [h.left]; decide)
    sameRoster_onLOGOUT) fun _ => ?_
  refine yields_ite (fun h => ?_) fun hnotLeave => ?_
  · have hevent : eventOfCommand args command = .leave (args.getD 1 []) := by
      rw [eventOfCommand, if_neg hnotInfo, if_neg hnotRename, if_pos h]
    rw [hevent] at hleave ⊢
    refine yields_bind fun name hname => ?_
    rw [getD_of_arg hname] at hleave ⊢
    intro l' hok
    rcases yields_leaveFound hagree l' hok with ⟨hkept, hcases⟩
    refine ⟨Roster.Follows.leave ?_, hkept⟩
    rcases hcases with ⟨rfl, hunknown⟩ |
      ⟨key, members, self, hself, hparty, hmem, hroster⟩
    · exact departs_unknown hunknown
    · have hiff := hleave _ rfl
        (roster_hasMember_iff.mp ⟨key, members, hparty, hmem⟩)
      have hdecide : self = decide (playerName = name) := by
        have hyields : Yields (fun self : Bool =>
            self = decide (playerName = args.getD 2 []))
            (arg args 2 >>= fun other =>
              pure (decide (playerName = other))) := by
          refine yields_bind fun other hother => yields_pure ?_
          rw [getD_of_arg hother]
        rw [hyields self hself]
        exact decide_eq_decide.mpr hiff.symm
      rw [hroster]
      exact departs_of_leaveFound hparty hmem hdecide
  refine yields_ite (fun h => follows_other hagree (by rw [h.left]; decide)
    sameRoster_onPROMOTE) fun _ => ?_
  refine yields_ite (fun h => ?_) fun hnotDestroy => ?_
  · intro l' hok
    rcases yields_onDESTROY l' hok with ⟨hroster, hkept⟩
    have hbounds : InBounds (l.onDESTROY args) := by
      rw [hok]
      exact without_ok l'
    have hlength : 2 ≤ args.length := inBounds_onDESTROY_iff.mp hbounds
    have hevent : eventOfCommand args command = .destroy (args.getD 1 []) := by
      rw [eventOfCommand, if_neg hnotInfo, if_neg hnotRename, if_neg hnotLeave,
        if_neg hnotKick, if_pos ⟨h, hlength⟩]
    rw [hevent, hroster]
    exact ⟨Roster.Follows.destroy _, hkept hagree⟩
  · have hevent : eventOfCommand args command = .other := by
      rw [eventOfCommand, if_neg hnotInfo, if_neg hnotRename, if_neg hnotLeave,
        if_neg hnotKick, if_neg fun hboth => hnotDestroy hboth.left]
    rw [hevent]
    exact yields_ok ⟨Roster.Follows.other, hagree⟩

theorem sameRoster_rememberChat (packet : Record) :
    SameRoster l (l.rememberChat packet) := by
  rw [rememberChat]
  split
  · exact ⟨rfl, fun h => h⟩
  · exact SameRoster.refl l

theorem onChat_cases {packet : Record} {answers : List CharString}
    (h : l.onChat m playerName packet = Except.ok (l', answers)) :
    (eventOf packet = .other ∧ l' = l.rememberChat packet) ∨
      exists command rest, argumentsOf packet = command :: rest ∧
        (l.rememberChat packet).onCommand m (command :: rest) playerName
          command = Except.ok l' := by
  rw [onChat] at h
  split at h
  · rename_i htype
    have harguments : argumentsOf packet =
        stringSplit bar (packet.string "message") := if_pos htype
    cases hsplit : stringSplit bar (packet.string "message") with
    | nil =>
        rw [hsplit] at h
        cases h
        rw [hsplit] at harguments
        exact Or.inl ⟨by rw [eventOf, harguments], rfl⟩
    | cons command rest =>
        rw [hsplit] at h
        rw [hsplit] at harguments
        rw [onParty] at h
        split at h
        · rename_i hinvite
          cases hanswers : onINVITE m (command :: rest) with
          | error fault =>
              rw [hanswers] at h
              cases h
          | ok answers' =>
              rw [hanswers] at h
              cases h
              refine Or.inl ⟨?_, rfl⟩
              rw [eventOf, harguments]
              refine eventOfCommand_other ?_
              rw [hinvite]
              decide
        · cases hcommand : (l.rememberChat packet).onCommand m
            (command :: rest) playerName command with
          | error fault =>
              rw [hcommand] at h
              cases h
          | ok next =>
              rw [hcommand] at h
              cases h
              exact Or.inr ⟨command, rest, harguments, hcommand⟩
  · rename_i htype
    have harguments : argumentsOf packet = [] := if_neg htype
    cases h
    exact Or.inl ⟨by rw [eventOf, harguments], rfl⟩

theorem followsMessage_of_not_strays {packet : Record}
    {answers : List CharString} (hagree : l.NamesAgree)
    (hstep : l.onChat m playerName packet = Except.ok (l', answers))
    (hgood : ¬Strays playerName l packet) :
    FollowsMessage playerName l packet l' := by
  have hremember : SameRoster l (l.rememberChat packet) :=
    sameRoster_rememberChat packet
  rcases onChat_cases hstep with ⟨hother, rfl⟩ |
    ⟨command, rest, harguments, hcommand⟩
  · rw [FollowsMessage, hother, hremember.roster]
    exact ⟨Roster.Follows.other, hremember.agree hagree⟩
  · have hevent : eventOf packet =
        eventOfCommand (command :: rest) command := by
      rw [eventOf, harguments]
    have hknows : forall name, (l.rememberChat packet).KnowsMember name ->
        l.KnowsMember name := fun name =>
      (knowsMember_rememberChat packet name).mp
    have hfollows := follows_onCommand (hremember.agree hagree)
      (fun old new heq hknown => by
        by_contra hne
        exact hgood (Or.inl
          ⟨old, new, hevent.trans heq, hne, hknows old hknown⟩))
      (fun name heq hknown => by
        by_contra hne
        rw [← harguments] at hne
        exact hgood (Or.inr
          ⟨name, hevent.trans heq, hknows name hknown, hne⟩)) l' hcommand
    rw [hremember.roster] at hfollows
    rw [FollowsMessage, hevent]
    exact hfollows

theorem eventOfCommand_rename {command old new : CharString}
    (h : eventOfCommand args command = .rename old new) :
    command = ascii "CHANGE_NAME" ∧ 3 ≤ args.length ∧
      args.getD 1 [] = old ∧ args.getD 2 [] = new := by
  rw [eventOfCommand] at h
  split at h
  · cases h
  split at h
  · rename_i hrename
    cases h
    exact ⟨hrename.left, hrename.right, rfl, rfl⟩
  split at h
  · cases h
  split at h
  · cases h
  split at h
  · cases h
  · cases h

theorem eventOfCommand_leave {command : CharString}
    (h : eventOfCommand args command = .leave name) :
    command = ascii "LEAVE" ∧ 2 ≤ args.length ∧ args.getD 1 [] = name := by
  rw [eventOfCommand] at h
  split at h
  · cases h
  split at h
  · cases h
  split at h
  · rename_i hleave
    cases h
    exact ⟨hleave.left, hleave.right, rfl⟩
  split at h
  · cases h
  split at h
  · cases h
  · cases h

end Rosters

end LocalPlayerData

namespace Roster

variable {R : Roster} {playerName name key : CharString}
  {members : Set CharString}

theorem not_follows_rename {old new : CharString} (hne : old ≠ new)
    (hparty : R key = some members) (hmember : old ∈ members) :
    ¬R.Follows playerName (.rename old new)
      (Function.update R key (some (insert new members))) := by
  intro h
  generalize hroster :
    Function.update R key (some (insert new members)) = R' at h
  have hkept : forall party members', R party = some members' ->
      old ∈ members' -> Roster.HasMember R' party old := by
    intro party members' hparty' hmember'
    rw [← hroster]
    by_cases heq : party = key
    · subst heq
      rw [hparty] at hparty'
      cases hparty'
      exact ⟨insert new members, Function.update_self _ _ _,
        Set.mem_insert_of_mem new hmember⟩
    · exact ⟨members', (Function.update_of_ne heq _ _).trans hparty', hmember'⟩
  cases h with
  | rename hparty' hmember' hcount =>
      rcases hkept _ _ hparty' hmember' with ⟨members'', hsome, hmem⟩
      rw [Function.update_self] at hsome
      cases hsome
      rcases hmem with heq | hgone
      · exact hne heq
      · exact hgone.right rfl
  | renameUnknown hunknown => exact hunknown key ⟨members, hparty, hmember⟩

theorem not_departs_dropped (hother : name ≠ playerName)
    (hparty : R key = some members) (hmember : name ∈ members) :
    ¬R.Departs playerName name (Function.update R key none) := by
  intro h
  generalize hroster : Function.update R key none = R' at h
  have hdropped : R' key = none := by
    rw [← hroster]
    exact Function.update_self _ _ _
  cases h with
  | @member party members' _ hparty' hmember' =>
      by_cases heq : key = party
      · subst heq
        rw [Function.update_self] at hdropped
        cases hdropped
      · rw [Function.update_of_ne heq, hparty] at hdropped
        cases hdropped
  | player hself _ => exact hother hself
  | unknown hunknown => exact hunknown key ⟨members, hparty, hmember⟩

theorem not_departs_kept (hparty : R key = some members)
    (hmember : playerName ∈ members) :
    ¬R.Departs playerName playerName
      (Function.update R key (some (members \ {playerName}))) := by
  intro h
  generalize hroster :
    Function.update R key (some (members \ {playerName})) = R' at h
  cases h with
  | member hother _ _ => exact hother rfl
  | @player party _ hmember' =>
      have hdropped := congrFun hroster party
      rw [Function.update_self] at hdropped
      by_cases heq : party = key
      · subst heq
        rw [Function.update_self] at hdropped
        cases hdropped
      · rcases hmember' with ⟨members', hparty', -⟩
        rw [Function.update_of_ne heq, hparty'] at hdropped
        cases hdropped
  | unknown hunknown => exact hunknown key ⟨members, hparty, hmember⟩

end Roster

namespace LocalPlayerData

section Strays

variable {m : Moment} {l l' : LocalPlayerData} {args : List CharString}
  {playerName : CharString}

theorem onCommand_CHANGE_NAME (h : 3 ≤ args.length) :
    l.onCommand m args playerName (ascii "CHANGE_NAME") =
      l.onCHANGE_NAME m args := by
  simp [onCommand, ascii, h]

theorem onCommand_LEAVE (h : 2 ≤ args.length) :
    l.onCommand m args playerName (ascii "LEAVE") =
      l.onLEAVE m args playerName := by
  simp [onCommand, ascii, h]

theorem not_follows_onCHANGE_NAME (hne : args.getD 1 [] ≠ args.getD 2 [])
    (hknown : l.KnowsMember (args.getD 1 []))
    (hok : l.onCHANGE_NAME m args = Except.ok l') :
    ¬l.roster.Follows playerName
      (.rename (args.getD 1 []) (args.getD 2 [])) l'.roster := by
  rcases (yields_onCHANGE_NAME l' hok).right with ⟨-, hunknown⟩ |
    ⟨key, members, hparty, hmem, hroster⟩
  · exact absurd hknown hunknown
  · rw [hroster]
    exact Roster.not_follows_rename hne hparty hmem

theorem not_follows_onLEAVE (hagree : l.NamesAgree)
    (hknown : l.KnowsMember (args.getD 1 []))
    (hne : ¬(playerName = args.getD 1 [] ↔ playerName = args.getD 2 []))
    (hok : l.onLEAVE m args playerName = Except.ok l') :
    ¬l.roster.Follows playerName (.leave (args.getD 1 [])) l'.roster := by
  have hyields : Yields (fun l' : LocalPlayerData =>
      ¬l.roster.Follows playerName (.leave (args.getD 1 [])) l'.roster)
      (l.onLEAVE m args playerName) := by
    refine yields_bind fun name hname => ?_
    rw [getD_of_arg hname] at hknown hne ⊢
    intro l' hok
    rcases (yields_leaveFound hagree l' hok).right with ⟨-, hunknown⟩ |
      ⟨key, members, self, hself, hparty, hmem, hroster⟩
    · exact absurd hknown hunknown
    have hself' : self = decide (playerName = args.getD 2 []) := by
      have hyields : Yields (fun self : Bool =>
          self = decide (playerName = args.getD 2 []))
          (arg args 2 >>= fun other =>
            pure (decide (playerName = other))) := by
        refine yields_bind fun other hother => yields_pure ?_
        rw [getD_of_arg hother]
      exact hyields self hself
    intro hfollows
    rw [hroster] at hfollows
    cases hfollows with
    | leave hdeparts =>
        cases self with
        | true =>
            have hother : playerName = args.getD 2 [] :=
              of_decide_eq_true hself'.symm
            refine Roster.not_departs_dropped ?_ hparty hmem hdeparts
            intro heq
            exact hne ⟨fun _ => hother, fun _ => heq.symm⟩
        | false =>
            have hother : playerName ≠ args.getD 2 [] :=
              of_decide_eq_false hself'.symm
            by_cases heq : playerName = name
            · subst heq
              exact Roster.not_departs_kept hparty hmem hdeparts
            · exact hne ⟨fun h => absurd h heq, fun h => absurd h hother⟩
  exact hyields l' hok

theorem not_followsMessage_of_strays {packet : Record}
    {answers : List CharString} (hagree : l.NamesAgree)
    (hstep : l.onChat m playerName packet = Except.ok (l', answers))
    (hbad : Strays playerName l packet) :
    ¬FollowsMessage playerName l packet l' := by
  have hremember : SameRoster l (l.rememberChat packet) :=
    sameRoster_rememberChat packet
  rintro ⟨hfollows, -⟩
  rw [← hremember.roster] at hfollows
  rcases onChat_cases hstep with ⟨hother, -⟩ |
    ⟨command, rest, harguments, hcommand⟩
  · rcases hbad with ⟨old, new, hrename, -, -⟩ | ⟨name, hleave, -, -⟩
    · rw [hother] at hrename
      cases hrename
    · rw [hother] at hleave
      cases hleave
  have hevent : eventOf packet =
      eventOfCommand (command :: rest) command := by
    rw [eventOf, harguments]
  rcases hbad with ⟨old, new, hrename, hne, hknown⟩ |
    ⟨name, hleave, hknown, hne⟩
  · rw [hrename] at hevent hfollows
    rcases eventOfCommand_rename hevent.symm with ⟨rfl, hlength, rfl, rfl⟩
    rw [onCommand_CHANGE_NAME hlength] at hcommand
    exact not_follows_onCHANGE_NAME hne
      ((knowsMember_rememberChat packet _).mpr hknown) hcommand hfollows
  · rw [hleave] at hevent hfollows
    rw [harguments] at hne
    rcases eventOfCommand_leave hevent.symm with ⟨rfl, hlength, rfl⟩
    rw [onCommand_LEAVE hlength] at hcommand
    exact not_follows_onLEAVE (hremember.agree hagree)
      ((knowsMember_rememberChat packet _).mpr hknown) hne hcommand hfollows

end Strays

/-!
## Runs of messages
-/

def ChatStep (playerName : CharString) (l : LocalPlayerData)
    (message : Moment × Record) (l' : LocalPlayerData) : Prop :=
  exists answers,
    l.onChat message.1 playerName message.2 = Except.ok (l', answers)

theorem chatStep_deterministic (playerName : CharString) :
    Deterministic (ChatStep playerName) := by
  intro l message l' l'' hstep hstep'
  rcases hstep with ⟨answers, hok⟩
  rcases hstep' with ⟨answers', hok'⟩
  rw [hok] at hok'
  cases hok'
  rfl

/--
From a player in no party, the parties follow every message of a run exactly
if none of them renames a member to another name, or is about a member that
leaves with a second argument that mistakes it for the player or not.
-/
theorem follows_atEachStep_iff {playerName : CharString}
    {start l : LocalPlayerData} {history : List (Moment × Record)}
    (hstart : start.partyInfoByName = ∅)
    (hrun : Run (ChatStep playerName) start history l) :
    AtEachStep (ChatStep playerName) start
        (fun l message l' => FollowsMessage playerName l message.2 l')
        history ↔
      Avoids (ChatStep playerName) start
        (fun l message => Strays playerName l message.2) history := by
  have hagree : start.NamesAgree := by
    rw [NamesAgree, hstart]
    exact UnorderedMap.every_empty
  refine atEachStep_iff_avoids (chatStep_deterministic playerName) hagree
    (fun _ _ hfollows => hfollows.right) (fun hkept hstep hgood => ?_)
    (fun hkept hstep hbad => ?_) hrun
  · rcases hstep with ⟨answers, hok⟩
    exact followsMessage_of_not_strays hkept hok hgood
  · rcases hstep with ⟨answers, hok⟩
    exact not_followsMessage_of_strays hkept hok hbad

def partyOfOne : Moment × Record :=
  (Moment.still, partyMessage
    (ascii "PINFO|1|p|a|0|0|0|0|5|a|1|1|1|1|1|1|1"))

/-- The only member gets another name. -/
def renameOne : Moment × Record :=
  (Moment.still, partyMessage (ascii "CHANGE_NAME|a|b"))

def inPartyOfOne : LocalPlayerData :=
  (create.rememberChat partyOfOne.2).setParty (ascii "p")
    { PartyInfo.create with
      partyId := 1
      partyName := ascii "p"
      leaderDisplayName := ascii "a"
      membersByName := (∅ : UnorderedMap CharString MemberInfo).insert
        (ascii "a")
        { handle := 5
          name := ascii "a"
          level := 1
          jobId := 1
          hpPercentage := 1
          mpPercentage := 1
          x := 1
          y := 1
          creature := 1 } }

theorem namesAgree_inPartyOfOne : inPartyOfOne.NamesAgree :=
  UnorderedMap.Every.insert UnorderedMap.every_empty
    ⟨rfl, UnorderedMap.Every.insert UnorderedMap.every_empty rfl⟩

theorem chatStep_partyOfOne :
    ChatStep [] create partyOfOne inPartyOfOne := ⟨[], rfl⟩

theorem follows_partyOfOne :
    AtEachStep (ChatStep []) create
        (fun l message l' => FollowsMessage [] l message.2 l') [partyOfOne] ↔
      Avoids (ChatStep []) create
        (fun l message => Strays [] l message.2) [partyOfOne] :=
  follows_atEachStep_iff rfl (Run.snoc Run.nil chatStep_partyOfOne)

/-- The party of one has two members when the only one is renamed. -/
theorem not_follows_renameOne :
    ¬AtEachStep (ChatStep []) create
      (fun l message l' => FollowsMessage [] l message.2 l')
      [partyOfOne, renameOne] := by
  intro h
  have hok : exists l' answers,
      inPartyOfOne.onChat Moment.still [] renameOne.2 =
        Except.ok (l', answers) := ⟨_, _, rfl⟩
  rcases hok with ⟨l', answers, hok⟩
  have hfollows := h [partyOfOne] renameOne [] inPartyOfOne l' rfl
    (Run.snoc Run.nil chatStep_partyOfOne) ⟨answers, hok⟩
  refine not_followsMessage_of_strays namesAgree_inPartyOfOne hok
    (Or.inl ?_) hfollows
  exact ⟨ascii "a", ascii "b", rfl, by decide, ascii "p", _, rfl, rfl⟩

end LocalPlayerData

end Mirror
end Rzu
