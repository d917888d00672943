import Mathlib.Data.Set.Card
import Rzu.Library.Run
import Rzu.Mirror.ChatBounds

/-!
# Who is in a party

What party messages mean for the members of parties, and which messages the
parties that are kept do not follow.
-/

namespace Rzu
namespace Mirror

open Library
open Core
open Packet

/-!
## Rosters
-/

/-- The names of the members of every party that there is. -/
abbrev Roster := CharString -> Option (Set CharString)

/-- What a message says about who is in a party. -/
inductive PartyEvent where
  | info (party : CharString) (members : List CharString)
  | rename (old new : CharString)
  | leave (name : CharString)
  | kick (name : CharString)
  | destroy (party : CharString)
  | other

def Roster.HasMember (R : Roster) (party name : CharString) : Prop :=
  exists members, R party = some members ∧ name ∈ members

/-- Whoever leaves or is kicked is no member; the player takes the party. -/
inductive Roster.Departs (playerName name : CharString) (R : Roster) :
    Roster -> Prop where
  | member {party : CharString} {members : Set CharString}
      (hother : name ≠ playerName) (hparty : R party = some members)
      (hmember : name ∈ members) :
      Departs playerName name R
        (Function.update R party (some (members \ {name})))
  | player {party : CharString} (hself : name = playerName)
      (hmember : R.HasMember party name) :
      Departs playerName name R (Function.update R party none)
  | unknown (h : forall party, ¬R.HasMember party name) :
      Departs playerName name R R

/-- How a roster follows an event. -/
inductive Roster.Follows (playerName : CharString) (R : Roster) :
    PartyEvent -> Roster -> Prop where
  | info (party : CharString) (members : List CharString) :
      Follows playerName R (.info party members)
        (Function.update R party (some {name | name ∈ members}))
  | rename {old new party : CharString} {members : Set CharString}
      (hparty : R party = some members) (hmember : old ∈ members)
      (hcount : (insert new (members \ {old})).ncard = members.ncard) :
      Follows playerName R (.rename old new)
        (Function.update R party (some (insert new (members \ {old}))))
  | renameUnknown {old new : CharString}
      (h : forall party, ¬R.HasMember party old) :
      Follows playerName R (.rename old new) R
  | leave {name : CharString} {R' : Roster}
      (h : R.Departs playerName name R') :
      Follows playerName R (.leave name) R'
  | kick {name : CharString} {R' : Roster}
      (h : R.Departs playerName name R') :
      Follows playerName R (.kick name) R'
  | destroy (party : CharString) :
      Follows playerName R (.destroy party) (Function.update R party none)
  | other : Follows playerName R .other R

/-!
## What messages mean
-/

def memberNames (args : List CharString) : List CharString :=
  (List.range ((args.length - 8) / 9)).map fun i => args.getD (9 + i * 9) []

def eventOfCommand (args : List CharString) (command : CharString) :
    PartyEvent :=
  if command = ascii "PINFO" ∧ 8 ≤ args.length then
    .info (args.getD 2 []) (memberNames args)
  else if command = ascii "CHANGE_NAME" ∧ 3 ≤ args.length then
    .rename (args.getD 1 []) (args.getD 2 [])
  else if command = ascii "LEAVE" ∧ 2 ≤ args.length then
    .leave (args.getD 1 [])
  else if command = ascii "KICK" ∧ 3 ≤ args.length then
    .kick (args.getD 2 [])
  else if command = ascii "DESTROY" ∧ 2 ≤ args.length then
    .destroy (args.getD 1 [])
  else .other

/-- The arguments of a party message; other messages have none. -/
def argumentsOf (packet : Record) : List CharString :=
  if packet.integer "type" = CHAT_PARTY_SYSTEM ∨
      packet.integer "type" = CHAT_RAID_SYSTEM then
    stringSplit bar (packet.string "message")
  else []

def eventOf (packet : Record) : PartyEvent :=
  match argumentsOf packet with
  | [] => .other
  | command :: rest => eventOfCommand (command :: rest) command

/-!
## Parties that are kept
-/

namespace PartyInfo

def members (party : PartyInfo) : Set CharString :=
  {name | party.hasMember name = true}

def NamesAgree (party : PartyInfo) : Prop :=
  UnorderedMap.Every (fun name member => member.name = name)
    party.membersByName

/-- The same party with the same members. -/
structure SameMembers (party party' : PartyInfo) : Prop where
  name : party'.partyName = party.partyName
  members : party'.members = party.members
  agree : party.NamesAgree -> party'.NamesAgree

variable {party party' party'' : PartyInfo} {name : CharString}

theorem SameMembers.refl (party : PartyInfo) : SameMembers party party where
  name := rfl
  members := rfl
  agree h := h

theorem SameMembers.trans (h : SameMembers party party')
    (h' : SameMembers party' party'') : SameMembers party party'' where
  name := h'.name.trans h.name
  members := h'.members.trans h.members
  agree hagree := h'.agree (h.agree hagree)

theorem mem_members : name ∈ party.members ↔ name ∈ party.membersByName :=
  AList.lookup_isSome

theorem members_setMember (member : MemberInfo) :
    (party.setMember member).members = insert member.name party.members := by
  ext name
  rw [mem_members, Set.mem_insert_iff, mem_members]
  exact AList.mem_insert _

theorem members_eraseMember :
    (party.eraseMember name).members = party.members \ {name} := by
  ext other
  rw [mem_members, Set.mem_sdiff, Set.mem_singleton_iff, mem_members, and_comm]
  exact AList.mem_erase

theorem NamesAgree.setMember (h : party.NamesAgree) (member : MemberInfo) :
    (party.setMember member).NamesAgree := h.insert rfl

theorem NamesAgree.eraseMember (h : party.NamesAgree) :
    (party.eraseMember name).NamesAgree := h.erase name

theorem sameMembers_setMember {member : MemberInfo}
    (h : member.name ∈ party.members) :
    SameMembers party (party.setMember member) where
  name := rfl
  members := by
    rw [members_setMember]
    exact Set.insert_eq_of_mem h
  agree hagree := hagree.setMember member

theorem sameMembers_updateMember {change : MemberInfo -> MemberInfo}
    (h : forall member, member.name = name -> (change member).name = name) :
    SameMembers party (party.updateMember name change) := by
  rw [updateMember]
  split
  · exact SameMembers.refl party
  · rename_i member hlookup
    have hmem : name ∈ party.membersByName :=
      UnorderedMap.mem_iff_lookup.mpr ⟨member, hlookup⟩
    refine ⟨rfl, ?_, fun hagree => ?_⟩
    · ext other
      rw [mem_members, mem_members]
      refine (AList.mem_insert _).trans (or_iff_right_of_imp fun heq => ?_)
      rw [heq]
      exact hmem
    · exact UnorderedMap.Every.insert hagree
        (h member (hagree name member hlookup))

end PartyInfo

namespace LocalPlayerData

/-- Who is in the parties that are kept. -/
def roster (l : LocalPlayerData) : Roster := fun party =>
  (l.partyInfoByName.lookup party).map PartyInfo.members

/-- Parties and members are kept under their names. -/
def NamesAgree (l : LocalPlayerData) : Prop :=
  UnorderedMap.Every (fun key party => party.partyName = key ∧
    party.NamesAgree) l.partyInfoByName

section Rosters

variable {m : Moment} {l l' l'' : LocalPlayerData} {args : List CharString}
  {playerName name key : CharString} {party : PartyInfo}
  {e : Sigma fun _ : CharString => PartyInfo}

theorem roster_setParty :
    (l.setParty key party).roster =
      Function.update l.roster key (some party.members) := by
  funext other
  rw [roster, Function.update_apply]
  change ((l.partyInfoByName.insert key party).lookup other).map _ = _
  rw [UnorderedMap.lookup_insert_eq]
  split
  · rfl
  · rfl

theorem roster_eraseParty :
    (l.eraseParty key).roster = Function.update l.roster key none := by
  funext other
  rw [roster, Function.update_apply]
  change ((l.partyInfoByName.erase key).lookup other).map _ = _
  rw [UnorderedMap.lookup_erase_eq]
  split
  · rfl
  · rfl

theorem roster_hasMember_iff :
    (exists key, l.roster.HasMember key name) ↔ l.KnowsMember name := by
  constructor
  · intro h
    rcases h with ⟨key, members, hroster, hmem⟩
    rcases Option.map_eq_some_iff.mp hroster with ⟨party, hlookup, rfl⟩
    exact ⟨key, party, hlookup, hmem⟩
  · intro h
    rcases h with ⟨key, party, hlookup, hmem⟩
    refine ⟨key, party.members, ?_, hmem⟩
    rw [roster, hlookup]
    rfl

theorem roster_of_lookup (h : l.partyInfoByName.lookup key = some party) :
    l.roster key = some party.members := by
  rw [roster, h]
  rfl

structure SameRoster (l l' : LocalPlayerData) : Prop where
  roster : l'.roster = l.roster
  agree : l.NamesAgree -> l'.NamesAgree

theorem SameRoster.refl (l : LocalPlayerData) : SameRoster l l where
  roster := rfl
  agree h := h

theorem SameRoster.trans (h : SameRoster l l') (h' : SameRoster l' l'') :
    SameRoster l l'' where
  roster := h'.roster.trans h.roster
  agree hagree := h'.agree (h.agree hagree)

theorem sameRoster_setParty
    (hlookup : l.partyInfoByName.lookup e.1 = some e.2)
    (h : PartyInfo.SameMembers e.2 party) :
    SameRoster l (l.setParty e.1 party) where
  roster := by
    rw [roster_setParty, h.members, ← roster_of_lookup hlookup,
      Function.update_eq_self]
  agree hagree := by
    rcases hagree e.1 e.2 hlookup with ⟨hname, hmembers⟩
    exact UnorderedMap.Every.insert hagree
      ⟨h.name.trans hname, h.agree hmembers⟩

def Finds (l : LocalPlayerData)
    (found : Option (Sigma fun _ : CharString => PartyInfo)) : Prop :=
  forall e, found = some e -> l.partyInfoByName.lookup e.1 = some e.2

theorem finds_findPartyByMember :
    l.Finds (l.findPartyByMember m name) :=
  fun _ h => UnorderedMap.Visit.lookup_of_find? h

theorem hasMember_of_findPartyByMember
    (h : l.findPartyByMember m name = some e) : name ∈ e.2.members :=
  UnorderedMap.Visit.of_find? h

theorem finds_findPartyById {partyId : Int} :
    l.Finds (l.findPartyById m partyId) :=
  fun _ h => UnorderedMap.Visit.lookup_of_find? h

theorem finds_findPartyByHandle {handle : Int} :
    l.Finds (l.findPartyByHandle m handle) :=
  fun _ h => UnorderedMap.Visit.lookup_of_find? h

theorem yields_findPartyByLocalMember :
    Yields l.Finds (l.findPartyByLocalMember m) := by
  rw [findPartyByLocalMember]
  split
  · exact yields_error _
  · exact yields_ok finds_findPartyByMember

theorem sameRoster_updateFound
    {found : Option (Sigma fun _ : CharString => PartyInfo)}
    {change : PartyInfo -> Except Fault PartyInfo} (hfinds : l.Finds found)
    (h : forall e, found = some e ->
      Yields (PartyInfo.SameMembers e.2) (change e.2)) :
    Yields (SameRoster l) (l.updateFound found change) := by
  cases found with
  | none => exact yields_ok (SameRoster.refl l)
  | some e =>
      refine yields_bind fun party hok => yields_pure ?_
      exact sameRoster_setParty (hfinds e rfl) (h e rfl party hok)

/-!
## Commands that change no roster
-/

theorem name_of_readMember {i : Nat} {member : MemberInfo}
    (h : readMember args i = Except.ok member) :
    arg args (i + 1) = Except.ok member.name := by
  have hyields : Yields (fun member : MemberInfo =>
      arg args (i + 1) = Except.ok member.name) (readMember args i) := by
    refine yields_bind fun _ _ => yields_bind fun name hname => ?_
    refine yields_bind fun _ _ => yields_bind fun _ _ => ?_
    refine yields_bind fun _ _ => yields_bind fun _ _ => ?_
    refine yields_bind fun _ _ => yields_bind fun _ _ => ?_
    exact yields_bind fun _ _ => yields_pure hname
  exact hyields member h

theorem sameRoster_onMINFO : Yields (SameRoster l) (l.onMINFO m args) := by
  refine yields_bind fun name hname => ?_
  refine sameRoster_updateFound finds_findPartyByMember fun e hfound => ?_
  refine yields_bind fun member hmember => yields_pure ?_
  have hread := name_of_readMember hmember
  rw [hname] at hread
  cases hread
  exact PartyInfo.sameMembers_setMember (hasMember_of_findPartyByMember hfound)

theorem sameRoster_onRMINFO : Yields (SameRoster l) (l.onRMINFO m args) := by
  refine yields_bind fun name _ => ?_
  refine sameRoster_updateFound finds_findPartyByMember fun e _ => ?_
  refine yields_bind fun _ _ => yields_bind fun _ _ => ?_
  refine yields_bind fun _ _ => yields_pure ?_
  exact PartyInfo.sameMembers_updateMember fun _ _ => rfl

theorem sameRoster_onMSINFO : Yields (SameRoster l) (l.onMSINFO m args) := by
  refine yields_bind fun partyId _ => ?_
  refine sameRoster_updateFound finds_findPartyById fun e _ => ?_
  refine yields_bind fun playerHandle _ => ?_
  refine yields_ite (fun _ => yields_pure (PartyInfo.SameMembers.refl e.2))
    fun _ => ?_
  refine yields_bind fun _ _ => yields_bind fun _ _ => yields_pure ?_
  split
  · exact ⟨rfl, rfl, fun h => h⟩
  · exact ⟨rfl, rfl, fun h => h⟩

theorem sameRoster_onSINFO : Yields (SameRoster l) (l.onSINFO m args) := by
  refine yields_bind fun partyId _ => ?_
  refine sameRoster_updateFound finds_findPartyById fun e _ => ?_
  refine yields_foldlM (fun i _ party h => ?_) ⟨rfl, rfl, fun h => h⟩
  refine yields_bind fun _ _ => yields_bind fun _ _ => ?_
  refine yields_bind fun _ _ => yields_pure (h.trans ?_)
  exact ⟨rfl, rfl, fun h => h⟩

theorem sameRoster_onCHANGE_LEVEL :
    Yields (SameRoster l) (l.onCHANGE_LEVEL m args) := by
  refine yields_bind fun name _ => ?_
  refine sameRoster_updateFound finds_findPartyByMember fun e _ => ?_
  refine yields_bind fun _ _ => yields_pure ?_
  exact PartyInfo.sameMembers_updateMember fun _ h => h

theorem sameRoster_onCHANGE_JOB :
    Yields (SameRoster l) (l.onCHANGE_JOB m args) := by
  refine yields_bind fun name _ => ?_
  refine sameRoster_updateFound finds_findPartyByMember fun e _ => ?_
  refine yields_bind fun _ _ => yields_pure ?_
  exact PartyInfo.sameMembers_updateMember fun _ h => h

theorem sameRoster_onMODE : Yields (SameRoster l) (l.onMODE m args) := by
  refine yields_bind fun found hfound => ?_
  refine sameRoster_updateFound (yields_findPartyByLocalMember found hfound)
    fun e _ => ?_
  exact yields_bind fun _ _ => yields_pure ⟨rfl, rfl, fun h => h⟩

theorem sameRoster_onLIST : Yields (SameRoster l) (l.onLIST m args) := by
  refine yields_bind fun found hfound => ?_
  refine sameRoster_updateFound (yields_findPartyByLocalMember found hfound)
    fun e _ => ?_
  refine yields_bind fun _ _ => yields_bind fun _ _ => ?_
  exact yields_bind fun _ _ => yields_pure ⟨rfl, rfl, fun h => h⟩

theorem sameMembers_setPosition {i : Nat} {handle : Int} :
    Yields (PartyInfo.SameMembers party)
      (setPosition m args party i handle) := by
  rw [setPosition]
  split
  · exact yields_ok (PartyInfo.SameMembers.refl party)
  · refine yields_bind fun _ _ => yields_bind fun _ _ => yields_pure ?_
    exact PartyInfo.sameMembers_updateMember fun _ h => h

theorem sameRoster_setPositions {indexes : List Nat} :
    Yields (SameRoster l) (setPositions m args indexes l) := by
  induction indexes generalizing l with
  | nil => exact yields_ok (SameRoster.refl l)
  | cons i rest ih =>
      refine yields_bind fun handle _ => ?_
      split
      · exact yields_ok (SameRoster.refl l)
      · rename_i e hfound
        refine yields_bind fun party hparty => ?_
        intro l' hok
        exact (sameRoster_setParty (finds_findPartyByHandle e hfound)
          (sameMembers_setPosition party hparty)).trans (ih l' hok)

theorem sameRoster_onLOGOUT : Yields (SameRoster l) (l.onLOGOUT m args) := by
  refine yields_bind fun name _ => ?_
  refine sameRoster_updateFound finds_findPartyByMember fun e _ => ?_
  exact yields_pure (PartyInfo.sameMembers_updateMember fun _ h => h)

theorem sameRoster_onPROMOTE : Yields (SameRoster l) (l.onPROMOTE m args) := by
  refine yields_bind fun name _ => ?_
  refine sameRoster_updateFound finds_findPartyByMember fun e _ => ?_
  refine yields_pure ?_
  split
  · exact PartyInfo.SameMembers.refl e.2
  · exact ⟨rfl, rfl, fun h => h⟩

/-!
## Commands that change one
-/

theorem getD_of_arg {i : Nat} {field : CharString}
    (h : arg args i = Except.ok field) : args.getD i [] = field := by
  by_cases hi : i < args.length
  · rw [arg_ok hi] at h
    cases h
    rfl
  · rw [arg_outOfRange (Nat.not_lt.mp hi)] at h
    cases h

theorem yields_readMembers {indexes : List Nat} :
    Yields (fun party' : PartyInfo => party'.partyName = party.partyName ∧
      party'.members = party.members ∪
        {name | name ∈ indexes.map fun i => args.getD (9 + i * 9) []} ∧
      (party.NamesAgree -> party'.NamesAgree))
      (indexes.foldlM (PartyInfo.readMembers args) party) := by
  induction indexes generalizing party with
  | nil =>
      refine yields_ok ⟨rfl, ?_, fun h => h⟩
      ext name
      simp
  | cons i rest ih =>
      rw [List.foldlM_cons]
      refine yields_bind fun party' hok => ?_
      have hset : exists member : MemberInfo,
          member.name = args.getD (9 + i * 9) [] ∧
            party' = party.setMember member := by
        have hyields : Yields (fun party' : PartyInfo =>
            exists member : MemberInfo,
              member.name = args.getD (9 + i * 9) [] ∧
                party' = party.setMember member)
            (PartyInfo.readMembers args party i) := by
          refine yields_bind fun member hmember => yields_pure ?_
          have hname := getD_of_arg (name_of_readMember hmember)
          have hindex : 8 + i * 9 + 1 = 9 + i * 9 := by lia
          rw [hindex] at hname
          exact ⟨member, hname.symm, rfl⟩
        exact hyields party' hok
      rcases hset with ⟨member, hname, rfl⟩
      intro party'' hok''
      rcases ih party'' hok'' with ⟨hparty, hmembers, hagree⟩
      refine ⟨hparty, ?_, fun h => hagree (h.setMember member)⟩
      rw [hmembers, PartyInfo.members_setMember, hname]
      ext name
      simp only [Set.mem_union, Set.mem_insert_iff, Set.mem_ofPred_eq,
        List.map_cons, List.mem_cons]
      tauto

theorem yields_onPINFO :
    Yields (fun l' : LocalPlayerData =>
      l'.roster = Function.update l.roster (args.getD 2 [])
        (some {name | name ∈ memberNames args}) ∧
      (l.NamesAgree -> l'.NamesAgree)) (l.onPINFO args) := by
  refine yields_bind fun partyName hname => yields_bind fun _ _ => ?_
  refine yields_bind fun _ _ => yields_bind fun _ _ => ?_
  refine yields_bind fun _ _ => yields_bind fun _ _ => ?_
  refine yields_bind fun _ _ => yields_bind fun party hok => yields_pure ?_
  rcases yields_readMembers party hok with ⟨hparty, hmembers, hagree⟩
  constructor
  · rw [roster_setParty, getD_of_arg hname, hmembers, memberNames]
    congr 2
    ext name
    rw [Set.mem_union, PartyInfo.mem_members]
    exact or_iff_right (AList.notMem_empty name)
  · intro hkept
    exact UnorderedMap.Every.insert hkept
      ⟨hparty, hagree UnorderedMap.every_empty⟩

theorem yields_onCHANGE_NAME :
    Yields (fun l' : LocalPlayerData =>
      (l.NamesAgree -> l'.NamesAgree) ∧
      ((l' = l ∧ ¬l.KnowsMember (args.getD 1 [])) ∨
        exists key members, l.roster key = some members ∧
          args.getD 1 [] ∈ members ∧
          l'.roster = Function.update l.roster key
            (some (insert (args.getD 2 []) members))))
      (l.onCHANGE_NAME m args) := by
  refine yields_bind fun name hname => ?_
  rw [getD_of_arg hname]
  cases hfound : l.findPartyByMember m name with
  | none =>
      refine yields_ok ⟨fun h => h, Or.inl ⟨rfl, ?_⟩⟩
      intro hknown
      rcases exists_findPartyByMember.mpr hknown with ⟨e, he⟩
      rw [hfound] at he
      cases he
  | some e =>
      refine yields_bind fun party hok => yields_pure ?_
      have hmem := hasMember_of_findPartyByMember hfound
      have hlookup := finds_findPartyByMember e hfound
      have hset : exists member : MemberInfo,
          member.name = args.getD 2 [] ∧ party = e.2.setMember member := by
        rcases UnorderedMap.mem_iff_lookup.mp
          (PartyInfo.mem_members.mp hmem) with ⟨member, hmember⟩
        simp only [hmember] at hok
        have hyields : Yields (fun party : PartyInfo =>
            exists member : MemberInfo, member.name = args.getD 2 [] ∧
              party = e.2.setMember member)
            (arg args 2 >>= fun newName =>
              pure (e.2.setMember { member with name := newName })) := by
          refine yields_bind fun newName hnew => yields_pure ?_
          rw [getD_of_arg hnew]
          exact ⟨{ member with name := newName }, rfl, rfl⟩
        exact hyields party hok
      rcases hset with ⟨member, hnew, rfl⟩
      constructor
      · intro hagree
        rcases hagree e.1 e.2 hlookup with ⟨hparty, hmembers⟩
        exact UnorderedMap.Every.insert hagree
          ⟨hparty, hmembers.setMember member⟩
      · refine Or.inr ⟨e.1, e.2.members, roster_of_lookup hlookup, hmem, ?_⟩
        rw [roster_setParty, PartyInfo.members_setMember, hnew]

theorem yields_leaveFound {isSelf : Except Fault Bool}
    (hagree : l.NamesAgree) :
    Yields (fun l' : LocalPlayerData => l'.NamesAgree ∧
      ((l' = l ∧ ¬l.KnowsMember name) ∨
        exists key members self, isSelf = Except.ok self ∧
          l.roster key = some members ∧ name ∈ members ∧
          l'.roster = Function.update l.roster key
            (if self then none else some (members \ {name}))))
      (l.leaveFound (l.findPartyByMember m name) name isSelf) := by
  cases hfound : l.findPartyByMember m name with
  | none =>
      refine yields_ok ⟨hagree, Or.inl ⟨rfl, ?_⟩⟩
      intro hknown
      rcases exists_findPartyByMember.mpr hknown with ⟨e, he⟩
      rw [hfound] at he
      cases he
  | some e =>
      refine yields_bind fun self hself => yields_pure ?_
      have hmem := hasMember_of_findPartyByMember hfound
      have hlookup := finds_findPartyByMember e hfound
      rcases hagree e.1 e.2 hlookup with ⟨hparty, hmembers⟩
      cases self with
      | true =>
          rw [if_pos rfl, hparty]
          refine ⟨UnorderedMap.Every.erase hagree e.1, Or.inr ?_⟩
          exact ⟨e.1, e.2.members, true, hself, roster_of_lookup hlookup,
            hmem, roster_eraseParty⟩
      | false =>
          rw [if_neg Bool.false_ne_true]
          constructor
          · exact UnorderedMap.Every.insert hagree
              ⟨hparty, hmembers.eraseMember⟩
          · refine Or.inr ⟨e.1, e.2.members, false, hself,
              roster_of_lookup hlookup, hmem, ?_⟩
            rw [roster_setParty, PartyInfo.members_eraseMember]
            rfl

theorem yields_onDESTROY :
    Yields (fun l' : LocalPlayerData =>
      l'.roster = Function.update l.roster (args.getD 1 []) none ∧
      (l.NamesAgree -> l'.NamesAgree)) (l.onDESTROY args) := by
  refine yields_bind fun partyName hname => yields_pure ?_
  rw [getD_of_arg hname]
  split
  · rename_i hlookup
    refine ⟨?_, fun h => h⟩
    have hnone : l.roster partyName = none := by
      rw [roster, hlookup]
      rfl
    rw [← hnone, Function.update_eq_self]
  · exact ⟨roster_eraseParty, fun h => UnorderedMap.Every.erase h partyName⟩

end Rosters

end LocalPlayerData

end Mirror
end Rzu
