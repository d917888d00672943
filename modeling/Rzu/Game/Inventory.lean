import Mathlib.Data.List.FinRange
import Mathlib.Logic.Function.Basic
import Rzu.Library.Run
import Rzu.Library.UnorderedMap
import Rzu.Packet.MessageBuffer

/-!
# The inventory of a character

Items are kept by their handles, and the slots for what is worn point to some
of them.  The client is told of every item where it is worn.
-/

namespace Rzu
namespace Game

open Library
open Packet

def WEAR_NONE : Int := -1

abbrev WEAR_MAX : Nat := 28

/-- An item that is alive has its handle for itself. -/
structure Item where
  handle : UInt32
  sid : Int
  summon_id : Int
  idx : Int
  code : Int
  count : Int
  level : Int
  enhance : Int
  ethereal_durability : Int
  endurance : Int
  flag : Int
  socket : Int
  remain_time : Int
  elemental_effect_type : Int
  appearance_code : Int
deriving DecidableEq

/-- The item that is made of a row of the database, and where it is worn. -/
structure DbItem where
  item : Item
  wear_info : Int

/-- The fields of `TS_ITEM_INFO` that are not zero. -/
structure ItemInfo where
  own_summon_handle : Int
  index : Int
  code : Int
  count : Int
  flag : Int
  handle : UInt32
  ethereal_durability : Int
  endurance : Int
  enhance : Int
  level : Int
  uid : Int
  remain_time : Int
  /-- Only the first of the sockets is copied. -/
  firstSocket : Int
  appearance_code : Int
  wear_position : Int
deriving DecidableEq

structure ItemWearInfo where
  item_handle : UInt32
  wear_position : Int
  target_handle : UInt32
  enhance : Int
  elemental_effect_type : Int
  appearance_code : Int
deriving DecidableEq

/-- `TS_SC_INVENTORY` and `TS_SC_ITEM_WEAR_INFO`. -/
inductive EquipmentPacket where
  | inventory (items : List ItemInfo)
  | itemWearInfo (info : ItemWearInfo)
deriving DecidableEq

def Item.fillInventoryItem (item : Item) (wear_position : Int) : ItemInfo where
  own_summon_handle := item.summon_id
  index := item.idx
  code := item.code
  count := item.count
  flag := item.flag
  handle := item.handle
  ethereal_durability := item.ethereal_durability
  endurance := item.endurance
  enhance := item.enhance
  level := item.level
  uid := item.sid
  remain_time := item.remain_time
  firstSocket := item.socket
  appearance_code := item.appearance_code
  wear_position := wear_position

def int16 : IntType := { uint16 with signed := true }

structure Inventory where
  items : UnorderedMap UInt32 Item
  /-- What the slots point to. -/
  equippedItem : Fin WEAR_MAX -> Option Item
  /-- The handle of the character. -/
  character : UInt32

namespace Inventory

def create (character : UInt32) : Inventory := ⟨∅, fun _ => none, character⟩

def slotOf (pos : Int) : Option (Fin WEAR_MAX) :=
  if h : 0 ≤ pos ∧ pos < WEAR_MAX then some ⟨pos.toNat, by lia⟩ else none

/-- `std::unordered_map::insert`, which leaves an entry of the key alone. -/
def insert (v : Inventory) (item : Item) : Inventory :=
  { v with items :=
      if item.handle ∈ v.items then v.items
      else v.items.insert item.handle item }

def setSlot (v : Inventory) (slot : Fin WEAR_MAX) (item : Option Item) :
    Inventory :=
  { v with equippedItem := Function.update v.equippedItem slot item }

/-- A round of the loop over the rows. -/
def initializeItem (v : Inventory) (dbItem : DbItem) : Inventory :=
  match slotOf dbItem.wear_info with
  | some slot => (v.insert dbItem.item).setSlot slot (some dbItem.item)
  | none => v.insert dbItem.item

def initializeItems (v : Inventory) (dbItems : List DbItem) : Inventory :=
  dbItems.foldl initializeItem v

def Holds (v : Inventory) (slot : Fin WEAR_MAX) (handle : UInt32) : Prop :=
  (v.equippedItem slot).map Item.handle = some handle

instance (v : Inventory) (slot : Fin WEAR_MAX) (handle : UInt32) :
    Decidable (v.Holds slot handle) :=
  inferInstanceAs (Decidable (_ = _))

def getEquipPosition (v : Inventory) (item : Item) : Int :=
  match (List.finRange WEAR_MAX).find? fun i => v.Holds i item.handle with
  | some i => i.val
  | none => WEAR_NONE

def sendItemWearInfo (v : Inventory) (item : Item) (pos : Int) :
    EquipmentPacket :=
  .itemWearInfo
    { item_handle := item.handle
      wear_position := int16.cast (uint16.cast pos)
      target_handle := v.character
      enhance := item.enhance
      elemental_effect_type := item.elemental_effect_type
      appearance_code := item.appearance_code }

def packItem (acc : List EquipmentPacket × List ItemInfo)
    (itemInfo : ItemInfo) : List EquipmentPacket × List ItemInfo :=
  let items := acc.2 ++ [itemInfo]
  if items.length ≥ 45 then (acc.1 ++ [.inventory items], [])
  else (acc.1, items)

def itemInfo (v : Inventory) (item : Item) : ItemInfo :=
  item.fillInventoryItem (v.getEquipPosition item)

def sendInventory (order : UnorderedMap.Visit UInt32 Item) (v : Inventory) :
    List EquipmentPacket :=
  let infos := (order.order v.items).map fun e => v.itemInfo e.2
  let (full, rest) := infos.foldl packItem ([], [])
  if rest.length > 0 ∨ infos.length = 0 then full ++ [.inventory rest]
  else full

def sendInventoryForItems (v : Inventory) (items : List Item) :
    List EquipmentPacket :=
  let (full, rest) := (items.map v.itemInfo).foldl packItem ([], [])
  if rest.length > 0 then full ++ [.inventory rest] else full

def addItem (v : Inventory) (item : Item) :
    Inventory × List EquipmentPacket :=
  let v := v.insert item
  (v, v.sendInventoryForItems [item])

def equipItem (v : Inventory) (itemHandle : UInt32) (pos : Int) :
    Inventory × List EquipmentPacket :=
  match slotOf pos, v.items.lookup itemHandle with
  | some slot, some item =>
      let taken :=
        match v.equippedItem slot with
        | some other => [v.sendItemWearInfo other WEAR_NONE]
        | none => []
      (v.setSlot slot (some item), taken ++ [v.sendItemWearInfo item pos])
  | _, _ => (v, [])

def unequipItem (v : Inventory) (pos : Int) :
    Inventory × List EquipmentPacket :=
  match slotOf pos with
  | some slot =>
      (v.setSlot slot none,
        match v.equippedItem slot with
        | some item => [v.sendItemWearInfo item WEAR_NONE]
        | none => [])
  | none => (v, [])

end Inventory

/-!
## What the client was told
-/

def EquipmentPacket.announced : EquipmentPacket -> List (UInt32 × Int)
  | .inventory items => items.map fun info => (info.handle, info.wear_position)
  | .itemWearInfo info => [(info.item_handle, info.wear_position)]

def lastAnnounced (sent : List EquipmentPacket) (handle : UInt32) :
    Option Int :=
  ((sent.flatMap EquipmentPacket.announced).reverse.find?
    fun pair => pair.1 = handle).map Prod.snd

/-- An inventory with the packets that were sent so far. -/
structure Wardrobe where
  inventory : Inventory
  sent : List EquipmentPacket

inductive InventoryCall where
  | initializeItems (dbItems : List DbItem)
  | addItem (item : Item)
  | equipItem (itemHandle : UInt32) (pos : Int)
  | unequipItem (pos : Int)
  | sendInventory (order : UnorderedMap.Visit UInt32 Item)

namespace Wardrobe

def create (character : UInt32) : Wardrobe := ⟨Inventory.create character, []⟩

/-- New items are not among those that are there. -/
def call (w : Wardrobe) : InventoryCall -> Option Wardrobe
  | .initializeItems dbItems =>
      if (dbItems.map fun dbItem => dbItem.item.handle).Nodup ∧
          forall dbItem, dbItem ∈ dbItems ->
            dbItem.item.handle ∉ w.inventory.items then
        some { w with inventory := w.inventory.initializeItems dbItems }
      else none
  | .addItem item =>
      if item.handle ∈ w.inventory.items then none
      else
        let (inventory, packets) := w.inventory.addItem item
        some ⟨inventory, w.sent ++ packets⟩
  | .equipItem itemHandle pos =>
      let (inventory, packets) := w.inventory.equipItem itemHandle pos
      some ⟨inventory, w.sent ++ packets⟩
  | .unequipItem pos =>
      let (inventory, packets) := w.inventory.unequipItem pos
      some ⟨inventory, w.sent ++ packets⟩
  | .sendInventory order =>
      some { w with sent := w.sent ++ w.inventory.sendInventory order }

def Step (w : Wardrobe) (c : InventoryCall) (w' : Wardrobe) : Prop :=
  w.call c = some w'

end Wardrobe

/-- Where an item is worn, if at all. -/
def Inventory.Wears (v : Inventory) (handle : UInt32) (pos : Int) : Prop :=
  (exists slot : Fin WEAR_MAX, v.Holds slot handle ∧ pos = slot.val) ∨
    (forall slot, ¬v.Holds slot handle) ∧ pos = WEAR_NONE

/-- No item is worn twice, and what was said last of each is so. -/
structure Wardrobe.Consistent (w : Wardrobe) : Prop where
  once : forall slot slot' handle, w.inventory.Holds slot handle ->
    w.inventory.Holds slot' handle -> slot = slot'
  told : forall handle pos, lastAnnounced w.sent handle = some pos ->
    w.inventory.Wears handle pos

end Game
end Rzu
