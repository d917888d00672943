import Mathlib.Data.Nat.Basic
import Rzu.Auction.AuctionFile
import Rzu.Library.FlatMap

/-!
# Writers of auctions

What both auction writers share: the map of the auctions by their uid, and what
becomes of all auctions when a round begins and when it ends.
-/

namespace Rzu
namespace Auction

open Library

/-- What a writer asks of its auctions. -/
class IAuctionData (AuctionData : Type) where
  getUid : AuctionData -> UInt32
  isInFinalState : AuctionData -> Bool

section Generic

variable {AuctionData : Type} [IAuctionData AuctionData]

def auctionKey (auction : AuctionData) : Nat :=
  (IAuctionData.getUid auction).toNat

/-- A callback that leaves the uid alone. -/
structure Callback (AuctionData : Type) [IAuctionData AuctionData] where
  run : AuctionData -> AuctionData
  uid : forall auction,
    IAuctionData.getUid (run auction) = IAuctionData.getUid auction

theorem Callback.key (callback : Callback AuctionData)
    (auction : AuctionData) :
    auctionKey (callback.run auction) = auctionKey auction := by
  rw [auctionKey, callback.uid, auctionKey]

end Generic

structure AuctionGenericWriter (AuctionData : Type)
    [IAuctionData AuctionData] where
  categoryTimeManager : CategoryTimeManager
  auctions : FlatMap (auctionKey : AuctionData -> Nat)

namespace AuctionGenericWriter

variable {AuctionData : Type} [IAuctionData AuctionData]

def create (categoryCount : Nat) : AuctionGenericWriter AuctionData where
  categoryTimeManager := CategoryTimeManager.create categoryCount
  auctions := FlatMap.empty

def getAuction (w : AuctionGenericWriter AuctionData) (uid : UInt32) :
    Option AuctionData :=
  w.auctions.find? uid.toNat

def addAuction (w : AuctionGenericWriter AuctionData)
    (auctionData : AuctionData) : AuctionGenericWriter AuctionData :=
  { w with auctions := w.auctions.insert auctionData }

/-- Change the auction that `getAuction` points to. -/
def modifyAuction (w : AuctionGenericWriter AuctionData) (uid : UInt32)
    (callback : Callback AuctionData) : AuctionGenericWriter AuctionData :=
  { w with
    auctions := w.auctions.modify uid.toNat callback.run callback.key }

def clearAuctions (w : AuctionGenericWriter AuctionData) :
    AuctionGenericWriter AuctionData :=
  { w with auctions := FlatMap.empty }

def forEachAuction (w : AuctionGenericWriter AuctionData)
    (callback : Callback AuctionData) : AuctionGenericWriter AuctionData :=
  { w with auctions := w.auctions.map callback.run callback.key }

/-- Purge auctions in final state and call `callback` on others. -/
def beginProcess (w : AuctionGenericWriter AuctionData)
    (callback : Callback AuctionData) : AuctionGenericWriter AuctionData :=
  { w with
    auctions := (w.auctions.filter fun auction =>
      !IAuctionData.isInFinalState auction).map callback.run callback.key }

def endProcess (w : AuctionGenericWriter AuctionData)
    (callback : Callback AuctionData) : AuctionGenericWriter AuctionData :=
  let w := w.forEachAuction callback
  { w with categoryTimeManager := w.categoryTimeManager.resetCategoryTime }

def importAuctions (w : AuctionGenericWriter AuctionData)
    (header : AuctionHeader) (auctions : List AuctionData) :
    AuctionGenericWriter AuctionData where
  categoryTimeManager := CategoryTimeManager.deserializeHeader header
  auctions := w.clearAuctions.auctions.insertAll auctions

/-!
## What is found by its uid
-/

variable (w : AuctionGenericWriter AuctionData)

theorem uid_of_getAuction {w : AuctionGenericWriter AuctionData}
    {uid : UInt32} {auction : AuctionData}
    (h : w.getAuction uid = some auction) :
    IAuctionData.getUid auction = uid := by
  have hkey : auctionKey auction = uid.toNat := FlatMap.key_of_find? h
  exact UInt32.toNat_inj.mp hkey

theorem mem_iff_getAuction {w : AuctionGenericWriter AuctionData}
    {auction : AuctionData} :
    auction ∈ w.auctions.elements ↔
      w.getAuction (IAuctionData.getUid auction) = some auction :=
  FlatMap.mem_iff_find?

theorem getAuction_modifyAuction (uid uid' : UInt32)
    (callback : Callback AuctionData) :
    (w.modifyAuction uid callback).getAuction uid' =
      if uid' = uid then (w.getAuction uid').map callback.run
      else w.getAuction uid' := by
  have hfind := w.auctions.find?_modify callback.key uid.toNat uid'.toNat
  simp only [UInt32.toNat_inj] at hfind
  exact hfind

theorem getAuction_forEachAuction (uid : UInt32)
    (callback : Callback AuctionData) :
    (w.forEachAuction callback).getAuction uid =
      (w.getAuction uid).map callback.run :=
  w.auctions.find?_map callback.key uid.toNat

theorem getAuction_endProcess (uid : UInt32)
    (callback : Callback AuctionData) :
    (w.endProcess callback).getAuction uid =
      (w.getAuction uid).map callback.run :=
  w.getAuction_forEachAuction uid callback

theorem getAuction_beginProcess (uid : UInt32)
    (callback : Callback AuctionData) :
    (w.beginProcess callback).getAuction uid =
      ((w.getAuction uid).filter fun auction =>
        !IAuctionData.isInFinalState auction).map callback.run := by
  have hmap := FlatMap.find?_map (w.auctions.filter fun auction =>
    !IAuctionData.isInFinalState auction) callback.key uid.toNat
  rw [FlatMap.find?_filter] at hmap
  exact hmap

theorem getAuction_addAuction (auctionData : AuctionData) (uid : UInt32) :
    (w.addAuction auctionData).getAuction uid =
      (w.getAuction uid).or
        (if IAuctionData.getUid auctionData = uid then some auctionData
          else none) := by
  have hfind := w.auctions.find?_insert auctionData uid.toNat
  simp only [auctionKey, UInt32.toNat_inj] at hfind
  exact hfind

theorem getAuction_importAuctions {w w' : AuctionGenericWriter AuctionData}
    (callback : Callback AuctionData) (header : AuctionHeader)
    (uid : UInt32) :
    (w.importAuctions header
      (w'.auctions.elements.map callback.run)).getAuction uid =
        (w'.getAuction uid).map callback.run := by
  have hall := w'.auctions.insertAll_map callback.key
  change ((FlatMap.empty).insertAll _).find? _ = _
  rw [hall]
  exact w'.auctions.find?_map callback.key uid.toNat

theorem ext_getAuction {w w' : AuctionGenericWriter AuctionData}
    (hmanager : w.categoryTimeManager = w'.categoryTimeManager)
    (hauctions : forall uid, w.getAuction uid = w'.getAuction uid) :
    w = w' := by
  have hsame : w.auctions = w'.auctions := by
    apply FlatMap.ext_find?
    intro k
    by_cases hk : k < 2 ^ 32
    · have huid := hauctions (UInt32.ofNat k)
      rw [getAuction, getAuction, UInt32.toNat_ofNat_of_lt' hk] at huid
      exact huid
    · have hnone : forall w : AuctionGenericWriter AuctionData,
          w.auctions.find? k = none := by
        intro w
        cases hfound : w.auctions.find? k with
        | none => rfl
        | some auction =>
            have hkey : auctionKey auction = k := FlatMap.key_of_find? hfound
            rw [auctionKey] at hkey
            have hlt := (IAuctionData.getUid auction).toNat_lt
            lia
      rw [hnone, hnone]
  cases w
  cases w'
  cases hmanager
  cases hsame
  rfl

/-!
## What holds of each auction
-/

def Each (w : AuctionGenericWriter AuctionData)
    (holds : AuctionData -> Prop) : Prop :=
  forall auction, auction ∈ w.auctions.elements -> holds auction

namespace Each

variable {w : AuctionGenericWriter AuctionData}
  {holds holds' : AuctionData -> Prop}

theorem create (categoryCount : Nat) (holds : AuctionData -> Prop) :
    (AuctionGenericWriter.create categoryCount :
      AuctionGenericWriter AuctionData).Each holds := by
  intro auction hauction
  cases hauction

theorem found (h : w.Each holds) {uid : UInt32} {auction : AuctionData}
    (hfound : w.getAuction uid = some auction) : holds auction :=
  h auction (FlatMap.mem_of_find? hfound)

theorem addAuction (h : w.Each holds) {auctionData : AuctionData}
    (hnew : holds auctionData) : (w.addAuction auctionData).Each holds := by
  intro auction hauction
  rcases FlatMap.mem_insertInto hauction with heq | hold
  · rw [heq]
    exact hnew
  · exact h auction hold

theorem forEachAuction (h : w.Each holds) {callback : Callback AuctionData}
    (hcallback : forall auction, holds auction ->
      holds' (callback.run auction)) :
    (w.forEachAuction callback).Each holds' := by
  intro auction hauction
  rcases List.mem_map.mp hauction with ⟨old, hold, heq⟩
  rw [← heq]
  exact hcallback old (h old hold)

theorem endProcess (h : w.Each holds) {callback : Callback AuctionData}
    (hcallback : forall auction, holds auction ->
      holds' (callback.run auction)) :
    (w.endProcess callback).Each holds' :=
  h.forEachAuction hcallback

theorem beginProcess (h : w.Each holds) {callback : Callback AuctionData}
    (hcallback : forall auction, holds auction ->
      IAuctionData.isInFinalState auction = false ->
      holds' (callback.run auction)) :
    (w.beginProcess callback).Each holds' := by
  intro auction hauction
  rcases List.mem_map.mp hauction with ⟨old, hold, heq⟩
  rcases List.mem_filter.mp hold with ⟨hmem, hlive⟩
  rw [← heq]
  exact hcallback old (h old hmem) (by simpa using hlive)

theorem modifyAuction (h : w.Each holds) (uid : UInt32)
    {callback : Callback AuctionData}
    (hcallback : forall auction, holds auction ->
      holds (callback.run auction)) :
    (w.modifyAuction uid callback).Each holds := by
  intro auction hauction
  rcases List.mem_map.mp hauction with ⟨old, hold, heq⟩
  rw [← heq]
  split
  · exact hcallback old (h old hold)
  · exact h old hold

theorem importAuctions (w : AuctionGenericWriter AuctionData)
    (header : AuctionHeader) {auctions : List AuctionData}
    (h : forall auction, auction ∈ auctions -> holds auction) :
    (w.importAuctions header auctions).Each holds := by
  intro auction hauction
  rcases FlatMap.mem_insertAll hauction with hold | hnew
  · cases hold
  · exact h auction hnew

end Each

end AuctionGenericWriter

/-!
## Rounds
-/

/-- The time at which the search in a category begins or ends. -/
inductive CategoryCall where
  | beginCategory (category : Nat) (time : Int64)
  | endCategory (category : Nat) (time : Int64)
deriving DecidableEq

def CategoryTimeManager.call (m : CategoryTimeManager) :
    CategoryCall -> CategoryTimeManager
  | CategoryCall.beginCategory category time => m.beginCategory category time
  | CategoryCall.endCategory category time => m.endCategory category time

/-- The calls of a round between `beginProcess` and `endProcess`. -/
inductive Call (Info : Type) where
  | category (call : CategoryCall)
  | addAuctionInfo (auction : Info)
deriving DecidableEq

/-- Some categories may begin and end before the processing does. -/
structure Round (Info : Type) where
  before : List CategoryCall
  calls : List (Call Info)
deriving DecidableEq

def Round.infos {Info : Type} (r : Round Info) : List Info :=
  r.calls.filterMap fun
    | Call.category _ => none
    | Call.addAuctionInfo info => some info

theorem Round.mem_infos {Info : Type} {r : Round Info} {info : Info} :
    info ∈ r.infos ↔ Call.addAuctionInfo info ∈ r.calls := by
  rw [Round.infos, List.mem_filterMap]
  constructor
  · rintro ⟨c, hc, heq⟩
    cases c with
    | category call => cases heq
    | addAuctionInfo info' =>
        cases heq
        exact hc
  · exact fun h => ⟨_, h, rfl⟩

section Mentioned

/-!
What is seen of a writer changes only with the calls about one auction, of
which a round has at most one.
-/

variable {writer view Info : Type} {call : writer -> Call Info -> writer}
  (look : writer -> view) {uidOf : Info -> UInt32} {uid : UInt32}
  (hframe : forall w c,
    (forall info, c = Call.addAuctionInfo info -> uidOf info ≠ uid) ->
      look (call w c) = look w)

include hframe

theorem foldl_unmentioned {calls : List (Call Info)}
    (hne : forall info, Call.addAuctionInfo info ∈ calls ->
      uidOf info ≠ uid) (w : writer) :
    look (calls.foldl call w) = look w := by
  induction calls generalizing w with
  | nil => rfl
  | cons first rest ih =>
      rw [List.foldl_cons, ih fun info hinfo =>
        hne info (List.mem_cons_of_mem _ hinfo)]
      apply hframe
      intro info heq
      apply hne
      rw [heq]
      exact List.mem_cons_self

theorem foldl_mentioned {calls : List (Call Info)} {info : Info}
    (hmem : Call.addAuctionInfo info ∈ calls) (huid : uidOf info = uid)
    (hnodup : ((Round.mk [] calls).infos.map uidOf).Nodup) (w : writer) :
    exists before : List (Call Info),
      look (before.foldl call w) = look w ∧
        look (calls.foldl call w) =
          look (call (before.foldl call w) (Call.addAuctionInfo info)) := by
  rcases List.append_of_mem hmem with ⟨before, after, heq⟩
  subst heq
  have hinfos : (Round.mk [] (before ++ Call.addAuctionInfo info ::
      after)).infos = (Round.mk [] before).infos ++ info ::
        (Round.mk [] after).infos :=
    List.filterMap_append
  rw [hinfos, List.map_append, List.map_cons] at hnodup
  rcases List.nodup_append.mp hnodup with ⟨-, hafter, hbefore⟩
  have hmention : forall (part : List (Call Info)) info',
      Call.addAuctionInfo info' ∈ part ->
        uidOf info' ∈ (Round.mk [] part).infos.map uidOf := by
    intro part info' hinfo
    exact List.mem_map_of_mem (Round.mem_infos.mpr hinfo)
  refine ⟨before, ?_, ?_⟩
  · apply foldl_unmentioned look hframe
    intro info' hinfo
    rw [← huid]
    exact hbefore _ (hmention before info' hinfo) _ List.mem_cons_self
  · rw [List.foldl_append, List.foldl_cons]
    apply foldl_unmentioned look hframe
    intro info' hinfo heq
    apply (List.nodup_cons.mp hafter).left
    rw [huid, ← heq]
    exact hmention after info' hinfo

end Mentioned

end Auction
end Rzu
