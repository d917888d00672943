import Rzu.Mirror.StrayMessages

/-!
# What parties can hold

A party that messages lead to is one whose names fit between two delimiters
and whose numbers fit their types.
-/

namespace Rzu
namespace Mirror

open Library
open Library.Numeral
open Core
open Packet

structure MemberInfo.Printable (member : MemberInfo) : Prop where
  handle : cUnsigned.Fits member.handle
  name : bar ∉ member.name
  level : cInt.Fits member.level
  jobId : cInt.Fits member.jobId
  hpPercentage : cInt.Fits member.hpPercentage
  mpPercentage : cInt.Fits member.mpPercentage
  x : cInt.Fits member.x
  y : cInt.Fits member.y
  creature : cInt.Fits member.creature

/-- Summons name the player that they are kept for, or nobody. -/
structure SummonInfo.Printable (key : Int) (summons : SummonInfo) :
    Prop where
  playerHandle : summons.playerHandle = key ∨ summons.playerHandle = 0
  key : cUnsigned.Fits key
  mainSummonHandle : cUnsigned.Fits summons.mainSummonHandle
  subSummonHandle : cUnsigned.Fits summons.subSummonHandle

structure PartyInfo.Printable (party : PartyInfo) : Prop where
  partyId : cInt.Fits party.partyId
  partyName : bar ∉ party.partyName
  leaderDisplayName : bar ∉ party.leaderDisplayName
  shareMode : cInt.Fits party.shareMode
  maxLevel : cInt.Fits party.maxLevel
  minLevel : cInt.Fits party.minLevel
  partyType : cInt.Fits party.partyType
  members : UnorderedMap.Every (fun name member =>
    member.name = name ∧ member.Printable) party.membersByName
  summons : UnorderedMap.Every SummonInfo.Printable party.summonByPlayerHandle

namespace PartyInfo

variable {party : PartyInfo} {member : MemberInfo} {name : CharString}

theorem printable_create : create.Printable where
  partyId := by decide
  partyName := List.not_mem_nil
  leaderDisplayName := List.not_mem_nil
  shareMode := by decide
  maxLevel := by decide
  minLevel := by decide
  partyType := by decide
  members := UnorderedMap.every_empty
  summons := UnorderedMap.every_empty

theorem Printable.setMember (h : party.Printable) (hmember : member.Printable) :
    (party.setMember member).Printable :=
  { h with members := h.members.insert ⟨rfl, hmember⟩ }

theorem Printable.eraseMember (h : party.Printable) :
    (party.eraseMember name).Printable :=
  { h with members := h.members.erase name }

theorem Printable.setSummons (h : party.Printable) {playerHandle : Int}
    {summons : SummonInfo} (hsummons : summons.Printable playerHandle) :
    (party.setSummons playerHandle summons).Printable :=
  { h with summons := h.summons.insert hsummons }

theorem Printable.updateMember (h : party.Printable)
    {change : MemberInfo -> MemberInfo}
    (hchange : forall member, member.name = name -> member.Printable ->
      (change member).name = name ∧ (change member).Printable) :
    (party.updateMember name change).Printable := by
  rw [PartyInfo.updateMember]
  split
  · exact h
  · rename_i member hlookup
    rcases h.members name member hlookup with ⟨hname, hmember⟩
    exact { h with members := h.members.insert (hchange member hname hmember) }

end PartyInfo

namespace LocalPlayerData

def Printable (l : LocalPlayerData) : Prop :=
  UnorderedMap.Every (fun _ party => party.Printable) l.partyInfoByName

section Commands

variable {m : Moment} {l l' : LocalPlayerData} {args : List CharString}
  {playerName name : CharString}

theorem printable_updateFound
    {found : Option (Sigma fun _ : CharString => PartyInfo)}
    {change : PartyInfo -> Except Fault PartyInfo} (hl : l.Printable)
    (hfinds : l.Finds found)
    (h : forall party, party.Printable ->
      Yields PartyInfo.Printable (change party)) :
    Yields Printable (l.updateFound found change) := by
  cases found with
  | none => exact yields_ok hl
  | some e =>
      refine yields_bind fun party hok => yields_pure ?_
      exact UnorderedMap.Every.insert hl
        (h e.2 (hl e.1 e.2 (hfinds e rfl)) party hok)

theorem printable_leaveFound {isSelf : Except Fault Bool} (hl : l.Printable) :
    Yields Printable
      (l.leaveFound (l.findPartyByMember m name) name isSelf) := by
  cases hfound : l.findPartyByMember m name with
  | none => exact yields_ok hl
  | some e =>
      refine yields_bind fun self _ => yields_pure ?_
      have hparty := hl e.1 e.2 (finds_findPartyByMember e hfound)
      cases self with
      | true => exact UnorderedMap.Every.erase hl e.2.partyName
      | false => exact UnorderedMap.Every.insert hl hparty.eraseMember

theorem notMem_of_arg (hargs : forall field, field ∈ args -> bar ∉ field)
    {i : Nat} {field : CharString} (h : arg args i = Except.ok field) :
    bar ∉ field := by
  refine hargs field ?_
  rw [arg] at h
  split at h
  · rename_i hfield
    cases h
    exact List.mem_of_getElem? hfield
  · cases h

theorem printable_readMember
    (hargs : forall field, field ∈ args -> bar ∉ field) {i : Nat} :
    Yields MemberInfo.Printable (readMember args i) := by
  refine yields_bind fun _ _ => yields_bind fun name hname => ?_
  refine yields_bind fun _ _ => yields_bind fun _ _ => ?_
  refine yields_bind fun _ _ => yields_bind fun _ _ => ?_
  refine yields_bind fun _ _ => yields_bind fun _ _ => ?_
  refine yields_bind fun _ _ => yields_pure ?_
  exact ⟨fits_strtouint _, notMem_of_arg hargs hname, fits_atoi _, fits_atoi _,
    fits_atoi _, fits_atoi _, fits_atoi _, fits_atoi _, fits_atoi _⟩

theorem printable_onMINFO (hl : l.Printable)
    (hargs : forall field, field ∈ args -> bar ∉ field) :
    Yields Printable (l.onMINFO m args) := by
  refine yields_bind fun _ _ => ?_
  refine printable_updateFound hl finds_findPartyByMember fun party h => ?_
  refine yields_bind fun member hok => yields_pure ?_
  exact h.setMember (printable_readMember hargs member hok)

theorem printable_onRMINFO (hl : l.Printable)
    (hargs : forall field, field ∈ args -> bar ∉ field) :
    Yields Printable (l.onRMINFO m args) := by
  refine yields_bind fun name hname => ?_
  refine printable_updateFound hl finds_findPartyByMember fun party h => ?_
  refine yields_bind fun _ _ => yields_bind fun _ _ => ?_
  refine yields_bind fun _ _ => yields_pure ?_
  refine h.updateMember fun member _ hmember => ⟨rfl, ?_⟩
  exact { hmember with
    handle := fits_strtouint _
    name := notMem_of_arg hargs hname
    jobId := fits_atoi _
    hpPercentage := fits_atoi _ }

theorem printable_onMSINFO (hl : l.Printable) :
    Yields Printable (l.onMSINFO m args) := by
  refine yields_bind fun _ _ => ?_
  refine printable_updateFound hl finds_findPartyById fun party h => ?_
  refine yields_bind fun _ _ => yields_ite (fun _ => yields_pure h) fun _ => ?_
  refine yields_bind fun _ _ => yields_bind fun _ _ => yields_pure ?_
  split
  · exact h.setSummons ⟨Or.inl rfl, IntType.fits_cast cUnsigned _,
      fits_strtouint _, fits_strtouint _⟩
  · exact { h with summons := h.summons.erase _ }

theorem printable_readSummons {party : PartyInfo} (h : party.Printable)
    {i : Nat} : Yields PartyInfo.Printable (party.readSummons args i) := by
  refine yields_bind fun text _ => yields_bind fun _ _ => ?_
  refine yields_bind fun _ _ => yields_pure (h.setSummons ?_)
  refine ⟨?_, fits_strtouint _, fits_strtouint _, fits_strtouint _⟩
  change ((party.summonByPlayerHandle.lookup (strtouint text)).getD
      SummonInfo.create).playerHandle = strtouint text ∨
    ((party.summonByPlayerHandle.lookup (strtouint text)).getD
      SummonInfo.create).playerHandle = 0
  cases hlookup : party.summonByPlayerHandle.lookup (strtouint text) with
  | none => exact Or.inr rfl
  | some known => exact (h.summons _ known hlookup).playerHandle

theorem printable_onSINFO (hl : l.Printable) :
    Yields Printable (l.onSINFO m args) := by
  refine yields_bind fun _ _ => ?_
  refine printable_updateFound hl finds_findPartyById fun party h => ?_
  exact yields_foldlM (fun i _ party' h' => printable_readSummons h')
    { h with summons := UnorderedMap.every_empty }

theorem printable_onCHANGE_NAME (hl : l.Printable)
    (hargs : forall field, field ∈ args -> bar ∉ field) :
    Yields Printable (l.onCHANGE_NAME m args) := by
  refine yields_bind fun _ _ => ?_
  refine printable_updateFound hl finds_findPartyByMember fun party h => ?_
  refine yields_bind fun newName hnew => yields_pure ?_
  split
  · exact h
  · rename_i member hlookup
    exact h.setMember { (h.members _ member hlookup).right with
      name := notMem_of_arg hargs hnew }

theorem printable_onCHANGE_LEVEL (hl : l.Printable) :
    Yields Printable (l.onCHANGE_LEVEL m args) := by
  refine yields_bind fun _ _ => ?_
  refine printable_updateFound hl finds_findPartyByMember fun party h => ?_
  refine yields_bind fun _ _ => yields_pure ?_
  exact h.updateMember fun member hname hmember =>
    ⟨hname, { hmember with level := fits_atoi _ }⟩

theorem printable_onCHANGE_JOB (hl : l.Printable) :
    Yields Printable (l.onCHANGE_JOB m args) := by
  refine yields_bind fun _ _ => ?_
  refine printable_updateFound hl finds_findPartyByMember fun party h => ?_
  refine yields_bind fun _ _ => yields_pure ?_
  exact h.updateMember fun member hname hmember =>
    ⟨hname, { hmember with jobId := fits_atoi _ }⟩

theorem printable_onMODE (hl : l.Printable) :
    Yields Printable (l.onMODE m args) := by
  refine yields_bind fun found hfound => ?_
  refine printable_updateFound hl (yields_findPartyByLocalMember found hfound)
    fun party h => ?_
  refine yields_bind fun _ _ => yields_pure ?_
  exact { h with shareMode := fits_atoi _ }

theorem printable_onPINFO (hl : l.Printable)
    (hargs : forall field, field ∈ args -> bar ∉ field) :
    Yields Printable (l.onPINFO args) := by
  refine yields_bind fun name hname => yields_bind fun _ _ => ?_
  refine yields_bind fun leader hleader => yields_bind fun _ _ => ?_
  refine yields_bind fun _ _ => yields_bind fun _ _ => ?_
  refine yields_bind fun _ _ => yields_bind fun party hok => yields_pure ?_
  have hknown : ((l.partyInfoByName.lookup name).getD
      PartyInfo.create).Printable := by
    cases hlookup : l.partyInfoByName.lookup name with
    | none => exact PartyInfo.printable_create
    | some known => exact hl name known hlookup
  have hparty : Yields PartyInfo.Printable (Except.ok (ε := Fault) party) := by
    rw [← hok]
    refine yields_foldlM (fun i _ party' h' => ?_)
      ⟨fits_atoi _, notMem_of_arg hargs hname, notMem_of_arg hargs hleader,
        fits_atoi _, fits_atoi _, fits_atoi _, fits_atoi _,
        UnorderedMap.every_empty, hknown.summons⟩
    refine yields_bind fun member hmember => yields_pure ?_
    exact h'.setMember (printable_readMember hargs member hmember)
  exact UnorderedMap.Every.insert hl (hparty party rfl)

theorem printable_onLIST (hl : l.Printable) :
    Yields Printable (l.onLIST m args) := by
  refine yields_bind fun found hfound => ?_
  refine printable_updateFound hl (yields_findPartyByLocalMember found hfound)
    fun party h => ?_
  refine yields_bind fun _ _ => yields_bind fun _ _ => ?_
  refine yields_bind fun _ _ => yields_pure ?_
  exact { h with
    shareMode := fits_atoi _
    maxLevel := fits_atoi _
    minLevel := fits_atoi _ }

theorem printable_setPosition {party : PartyInfo} (h : party.Printable)
    {i : Nat} {handle : Int} :
    Yields PartyInfo.Printable (setPosition m args party i handle) := by
  rw [setPosition]
  split
  · exact yields_ok h
  · refine yields_bind fun _ _ => yields_bind fun _ _ => yields_pure ?_
    exact h.updateMember fun member hname hmember =>
      ⟨hname, { hmember with x := fits_atoi _, y := fits_atoi _ }⟩

theorem printable_setPositions {indexes : List Nat} (hl : l.Printable) :
    Yields Printable (setPositions m args indexes l) := by
  induction indexes generalizing l with
  | nil => exact yields_ok hl
  | cons i rest ih =>
      refine yields_bind fun handle _ => ?_
      split
      · exact yields_ok hl
      · rename_i e hfound
        refine yields_bind fun party hok => ih ?_
        have h := hl e.1 e.2 (finds_findPartyByHandle e hfound)
        exact UnorderedMap.Every.insert hl (printable_setPosition h party hok)

theorem printable_onLOGOUT (hl : l.Printable) :
    Yields Printable (l.onLOGOUT m args) := by
  refine yields_bind fun _ _ => ?_
  refine printable_updateFound hl finds_findPartyByMember fun party h => ?_
  refine yields_pure ?_
  refine h.updateMember fun member hname hmember => ⟨hname, ?_⟩
  have hzero : cInt.Fits 0 := by decide
  have hnobody : cUnsigned.Fits 0 := by decide
  exact { hmember with
    handle := hnobody
    hpPercentage := hzero
    mpPercentage := hzero
    x := hzero
    y := hzero
    creature := hzero }

theorem printable_onPROMOTE (hl : l.Printable) :
    Yields Printable (l.onPROMOTE m args) := by
  refine yields_bind fun _ _ => ?_
  refine printable_updateFound hl finds_findPartyByMember fun party h => ?_
  refine yields_pure ?_
  split
  · exact h
  · rename_i member hlookup
    exact { h with
      leaderDisplayName := (h.members _ member hlookup).right.name }

theorem printable_onDESTROY (hl : l.Printable) :
    Yields Printable (l.onDESTROY args) := by
  refine yields_bind fun partyName _ => yields_pure ?_
  split
  · exact hl
  · exact UnorderedMap.Every.erase hl partyName

theorem printable_onCommand {command : CharString} (hl : l.Printable)
    (hargs : forall field, field ∈ args -> bar ∉ field) :
    Yields Printable (l.onCommand m args playerName command) := by
  refine yields_ite (fun _ => printable_onMINFO hl hargs) fun _ => ?_
  refine yields_ite (fun _ => printable_onRMINFO hl hargs) fun _ => ?_
  refine yields_ite (fun _ => printable_onMSINFO hl) fun _ => ?_
  refine yields_ite (fun _ => printable_onSINFO hl) fun _ => ?_
  refine yields_ite (fun _ => printable_onCHANGE_NAME hl hargs) fun _ => ?_
  refine yields_ite (fun _ => printable_onCHANGE_LEVEL hl) fun _ => ?_
  refine yields_ite (fun _ => printable_onCHANGE_JOB hl) fun _ => ?_
  refine yields_ite (fun _ => printable_onMODE hl) fun _ => ?_
  refine yields_ite (fun _ => printable_onPINFO hl hargs) fun _ => ?_
  refine yields_ite (fun _ => printable_onLIST hl) fun _ => ?_
  refine yields_ite (fun _ => printable_setPositions hl) fun _ => ?_
  refine yields_ite (fun _ => yields_bind fun _ _ => printable_leaveFound hl)
    fun _ => ?_
  refine yields_ite (fun _ => printable_onLOGOUT hl) fun _ => ?_
  refine yields_ite (fun _ => yields_bind fun _ _ => printable_leaveFound hl)
    fun _ => ?_
  refine yields_ite (fun _ => printable_onPROMOTE hl) fun _ => ?_
  exact yields_ite (fun _ => printable_onDESTROY hl) fun _ => yields_ok hl

theorem printable_rememberChat {packet : Record} (hl : l.Printable) :
    (l.rememberChat packet).Printable := by
  rw [rememberChat]
  split
  · exact hl
  · exact hl

theorem mem_argumentsOf {packet : Record} {field : CharString}
    (h : field ∈ argumentsOf packet) : bar ∉ field := by
  rw [argumentsOf] at h
  split at h
  · exact notMem_of_mem_stringSplit h
  · cases h

theorem Printable.step {message : Moment × Record} (hl : l.Printable)
    (hstep : ChatStep playerName l message l') : l'.Printable := by
  rcases hstep with ⟨answers, hok⟩
  rcases onChat_cases hok with ⟨-, rfl⟩ |
    ⟨command, rest, harguments, hcommand⟩
  · exact printable_rememberChat hl
  · refine printable_onCommand (printable_rememberChat hl) ?_ l' hcommand
    intro field hfield
    rw [← harguments] at hfield
    exact mem_argumentsOf hfield

theorem printable_of_run {start : LocalPlayerData}
    {history : List (Moment × Record)} (hstart : start.partyInfoByName = ∅)
    (hrun : Run (ChatStep playerName) start history l) : l.Printable := by
  have hempty : start.Printable := by
    rw [Printable, hstart]
    exact UnorderedMap.every_empty
  exact hrun.invariant hempty fun h hstep => h.step hstep

end Commands

end LocalPlayerData

end Mirror
end Rzu
