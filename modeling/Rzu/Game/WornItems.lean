import Rzu.Game.Inventory

/-!
# Where items are worn

An item that is put on moves to its new slot without leaving the old one, and
items that are loaded take slots without a word about who had them.  But for
that, every item is worn at most once, and the client knows where.
-/

namespace Rzu
namespace Game

open Library
open Packet

/-!
## Announcements
-/

section Announcements

variable {sent packets : List EquipmentPacket} {handle : UInt32} {pos : Int}

theorem lastAnnounced_append (sent packets : List EquipmentPacket)
    (handle : UInt32) :
    lastAnnounced (sent ++ packets) handle =
      (lastAnnounced packets handle).or (lastAnnounced sent handle) := by
  rw [lastAnnounced, lastAnnounced, lastAnnounced, List.flatMap_append,
    List.reverse_append, List.find?_append, Option.map_or]

theorem lastAnnounced_mem (h : lastAnnounced packets handle = some pos) :
    (handle, pos) ∈ packets.flatMap EquipmentPacket.announced := by
  rw [lastAnnounced, Option.map_eq_some_iff] at h
  rcases h with ⟨⟨handle', pos'⟩, hfound, rfl⟩
  have hhandle : handle' = handle := by
    simpa using List.find?_some hfound
  rw [← hhandle]
  exact List.mem_reverse.mp (List.mem_of_find?_eq_some hfound)

theorem lastAnnounced_none (h : lastAnnounced packets handle = none) :
    (handle, pos) ∉ packets.flatMap EquipmentPacket.announced := by
  rw [lastAnnounced, Option.map_eq_none_iff, List.find?_eq_none] at h
  intro hmem
  exact h _ (List.mem_reverse.mpr hmem) (decide_eq_true rfl)

theorem lastAnnounced_cases
    (h : lastAnnounced (sent ++ packets) handle = some pos) :
    (handle, pos) ∈ packets.flatMap EquipmentPacket.announced ∨
      lastAnnounced sent handle = some pos ∧
        forall pos', (handle, pos') ∉
          packets.flatMap EquipmentPacket.announced := by
  rw [lastAnnounced_append, Option.or_eq_some_iff] at h
  rcases h with hnow | ⟨hnone, hbefore⟩
  · exact Or.inl (lastAnnounced_mem hnow)
  · exact Or.inr ⟨hbefore, fun pos' => lastAnnounced_none hnone⟩

theorem wirePosition_eq (hlow : -1 ≤ pos) (hhigh : pos < WEAR_MAX) :
    int16.cast (uint16.cast pos) = pos := by
  rcases Int.lt_or_le pos 0 with hneg | hnonneg
  · have hnone : pos = -1 := by lia
    rw [hnone]
    decide
  · have hunsigned : uint16.cast pos = pos := by
      have hmodulus : uint16.modulus = 65536 := by decide
      have hfits : 0 ≤ pos ∧ pos < uint16.modulus := by
        rw [hmodulus]
        lia
      exact IntType.cast_eq hfits
    have hmodulus : int16.modulus = 65536 := by decide
    have hfits : -int16.modulus ≤ 2 * pos ∧ 2 * pos < int16.modulus := by
      rw [hmodulus]
      lia
    rw [hunsigned]
    exact IntType.cast_eq hfits

end Announcements

namespace Inventory

variable {v : Inventory} {item : Item} {pos : Int} {slot : Fin WEAR_MAX}
  {handle : UInt32}

theorem slotOf_some (h : slotOf pos = some slot) :
    pos = slot.val ∧ -1 ≤ pos ∧ pos < WEAR_MAX := by
  rw [slotOf] at h
  split at h
  · rename_i hpos
    cases h
    change pos = (pos.toNat : Int) ∧ -1 ≤ pos ∧ pos < WEAR_MAX
    lia
  · cases h

theorem wears_getEquipPosition (v : Inventory) (item : Item) :
    v.Wears item.handle (v.getEquipPosition item) := by
  rw [getEquipPosition]
  split
  · rename_i slot hfound
    refine Or.inl ⟨slot, ?_, rfl⟩
    simpa using List.find?_some hfound
  · rename_i hnone
    refine Or.inr ⟨fun slot => ?_, rfl⟩
    rw [List.find?_eq_none] at hnone
    simpa using hnone slot (List.mem_finRange slot)

theorem announced_sendItemWearInfo (hlow : -1 ≤ pos) (hhigh : pos < WEAR_MAX) :
    (v.sendItemWearInfo item pos).announced = [(item.handle, pos)] := by
  rw [sendItemWearInfo, EquipmentPacket.announced, wirePosition_eq hlow hhigh]

theorem announced_packItem (infos : List ItemInfo)
    (acc : List EquipmentPacket × List ItemInfo) :
    (infos.foldl packItem acc).1.flatMap EquipmentPacket.announced ++
        (EquipmentPacket.inventory (infos.foldl packItem acc).2).announced =
      acc.1.flatMap EquipmentPacket.announced ++
        (EquipmentPacket.inventory acc.2).announced ++
        (EquipmentPacket.inventory infos).announced := by
  induction infos generalizing acc with
  | nil => simp [EquipmentPacket.announced]
  | cons info infos ih =>
      rw [List.foldl_cons, ih, packItem]
      split
      · simp [EquipmentPacket.announced]
      · simp [EquipmentPacket.announced]

theorem announced_packed {infos : List ItemInfo} {p : Prop} [Decidable p]
    (hp : ¬p -> (infos.foldl packItem ([], [])).2 = []) :
    (if p then (infos.foldl packItem ([], [])).1 ++
          [.inventory (infos.foldl packItem ([], [])).2]
        else (infos.foldl packItem ([], [])).1).flatMap
          EquipmentPacket.announced =
      infos.map fun info => (info.handle, info.wear_position) := by
  have hpacked := announced_packItem infos ([], [])
  rw [List.flatMap_nil, List.nil_append] at hpacked
  change _ = [] ++ _ at hpacked
  rw [List.nil_append] at hpacked
  split
  · rw [List.flatMap_append, List.flatMap_cons, List.flatMap_nil,
      List.append_nil]
    exact hpacked
  · rename_i hnot
    rw [hp hnot] at hpacked
    change _ ++ [] = _ at hpacked
    rw [List.append_nil] at hpacked
    exact hpacked

theorem announced_sendInventory {order : UnorderedMap.Visit UInt32 Item} :
    (v.sendInventory order).flatMap EquipmentPacket.announced =
      (order.order v.items).map fun e =>
        (e.2.handle, v.getEquipPosition e.2) := by
  rw [sendInventory]
  refine (announced_packed fun hnot => ?_).trans ?_
  · rw [not_or] at hnot
    exact List.eq_nil_of_length_eq_zero (by lia)
  · rw [List.map_map]
    rfl

theorem announced_sendInventoryForItems {items : List Item} :
    (v.sendInventoryForItems items).flatMap EquipmentPacket.announced =
      items.map fun item => (item.handle, v.getEquipPosition item) := by
  rw [sendInventoryForItems]
  refine (announced_packed fun hnot => ?_).trans ?_
  · exact List.eq_nil_of_length_eq_zero (by lia)
  · rw [List.map_map]
    rfl

/-!
## Slots
-/

theorem holds_setSlot {other : Option Item} {slot' : Fin WEAR_MAX} :
    (v.setSlot slot other).Holds slot' handle ↔
      if slot' = slot then other.map Item.handle = some handle
      else v.Holds slot' handle := by
  rw [Holds, setSlot]
  dsimp only
  split
  · rename_i heq
    rw [heq, Function.update_self]
  · rename_i hne
    rw [Function.update_of_ne hne]
    rfl

theorem mem_insert : handle ∈ (v.insert item).items ↔
    handle = item.handle ∨ handle ∈ v.items := by
  rw [insert]
  dsimp only
  split
  · rename_i hin
    refine ⟨Or.inr, fun h => ?_⟩
    rcases h with rfl | h
    · exact hin
    · exact h
  · exact AList.mem_insert v.items

theorem initializeItem_slot (v : Inventory) (dbItem : DbItem)
    (slot : Fin WEAR_MAX) :
    (v.initializeItem dbItem).equippedItem slot =
      if slotOf dbItem.wear_info = some slot then some dbItem.item
      else v.equippedItem slot := by
  rw [initializeItem]
  split
  · rename_i slot' hslot
    rw [hslot]
    rcases eq_or_ne slot' slot with rfl | hne
    · rw [if_pos rfl]
      exact Function.update_self _ _ _
    · rw [if_neg fun heq => hne (Option.some.inj heq)]
      exact Function.update_of_ne hne.symm _ _
  · rename_i hslot
    rw [hslot, if_neg fun heq => nomatch heq]
    rfl

theorem mem_initializeItem {dbItem : DbItem} :
    handle ∈ (v.initializeItem dbItem).items ↔
      handle = dbItem.item.handle ∨ handle ∈ v.items := by
  rw [initializeItem]
  split
  · exact mem_insert
  · exact mem_insert

theorem initializeItems_slot (dbItems : List DbItem) (v : Inventory)
    (slot : Fin WEAR_MAX) :
    (exists dbItem, dbItem ∈ dbItems ∧ slotOf dbItem.wear_info = some slot ∧
      (v.initializeItems dbItems).equippedItem slot = some dbItem.item) ∨
    (forall dbItem, dbItem ∈ dbItems ->
      slotOf dbItem.wear_info ≠ some slot) ∧
      (v.initializeItems dbItems).equippedItem slot = v.equippedItem slot := by
  induction dbItems generalizing v with
  | nil => exact Or.inr ⟨fun _ hmem => absurd hmem List.not_mem_nil, rfl⟩
  | cons dbItem dbItems ih =>
      change (exists _, _ ∧ _ ∧ ((v.initializeItem dbItem).initializeItems
          dbItems).equippedItem slot = _) ∨ _ ∧
        ((v.initializeItem dbItem).initializeItems dbItems).equippedItem
          slot = _
      rcases ih (v.initializeItem dbItem) with
        ⟨later, hmem, hslot, hlater⟩ | ⟨hnone, hsame⟩
      · exact Or.inl ⟨later, List.mem_cons_of_mem _ hmem, hslot, hlater⟩
      · rw [hsame, initializeItem_slot]
        by_cases hslot : slotOf dbItem.wear_info = some slot
        · rw [if_pos hslot]
          exact Or.inl ⟨dbItem, List.mem_cons_self, hslot, rfl⟩
        · rw [if_neg hslot]
          refine Or.inr ⟨fun other hother => ?_, rfl⟩
          rcases List.mem_cons.mp hother with rfl | hlater
          · exact hslot
          · exact hnone other hlater

theorem mem_initializeItems (dbItems : List DbItem) (v : Inventory) :
    handle ∈ (v.initializeItems dbItems).items ↔
      (exists dbItem, dbItem ∈ dbItems ∧ dbItem.item.handle = handle) ∨
        handle ∈ v.items := by
  induction dbItems generalizing v with
  | nil => simp [initializeItems]
  | cons dbItem dbItems ih =>
      change handle ∈ ((v.initializeItem dbItem).initializeItems
        dbItems).items ↔ _
      have hcons : (exists row, row ∈ dbItem :: dbItems ∧
          row.item.handle = handle) ↔ dbItem.item.handle = handle ∨
            exists row, row ∈ dbItems ∧ row.item.handle = handle := by
        simp only [List.mem_cons, or_and_right, exists_or, exists_eq_left]
      rw [ih, mem_initializeItem, hcons, eq_comm, or_left_comm, or_assoc]

theorem keys_insert
    (h : UnorderedMap.Every (fun handle item => item.handle = handle)
      v.items) :
    UnorderedMap.Every (fun handle item => item.handle = handle)
      (v.insert item).items := by
  rw [insert]
  dsimp only
  split
  · exact h
  · exact h.insert rfl

theorem keys_initializeItems (dbItems : List DbItem)
    (h : UnorderedMap.Every (fun handle item => item.handle = handle)
      v.items) :
    UnorderedMap.Every (fun handle item => item.handle = handle)
      (v.initializeItems dbItems).items := by
  induction dbItems generalizing v with
  | nil => exact h
  | cons dbItem dbItems ih =>
      refine ih ?_
      rw [initializeItem]
      split
      · exact keys_insert h
      · exact keys_insert h

theorem wears_congr {v' : Inventory}
    (h : forall slot, v'.Holds slot handle ↔ v.Holds slot handle) :
    v'.Wears handle pos ↔ v.Wears handle pos := by
  simp only [Wears, h]

theorem wears_setSlot {other : Option Item} (hbefore : ¬v.Holds slot handle)
    (hafter : other.map Item.handle ≠ some handle) :
    (v.setSlot slot other).Wears handle pos ↔ v.Wears handle pos := by
  refine wears_congr fun slot' => ?_
  rw [holds_setSlot]
  split
  · rename_i heq
    rw [heq]
    exact ⟨fun h => absurd h hafter, fun h => absurd h hbefore⟩
  · rfl

end Inventory

/-!
## What every call keeps
-/

/--
Items lie under their handles, slots point to items that are there, and only
those were announced.
-/
structure Wardrobe.Kept (w : Wardrobe) : Prop extends w.Consistent where
  keys : UnorderedMap.Every (fun handle item => item.handle = handle)
    w.inventory.items
  held : forall slot handle, w.inventory.Holds slot handle ->
    handle ∈ w.inventory.items
  known : forall handle pos, lastAnnounced w.sent handle = some pos ->
    handle ∈ w.inventory.items

/--
An item is put on that is worn in another slot, or rows are loaded for a slot
that points to an item which the client knows of.
-/
def Wardrobe.Misplaces (w : Wardrobe) : InventoryCall -> Prop
  | .initializeItems dbItems =>
      exists dbItem slot handle, dbItem ∈ dbItems ∧
        Inventory.slotOf dbItem.wear_info = some slot ∧
        w.inventory.Holds slot handle ∧
        (lastAnnounced w.sent handle).isSome = true
  | .equipItem itemHandle pos =>
      exists slot slot', Inventory.slotOf pos = some slot ∧ slot' ≠ slot ∧
        itemHandle ∈ w.inventory.items ∧ w.inventory.Holds slot' itemHandle
  | _ => False

namespace Wardrobe

variable {w w' : Wardrobe} {c : InventoryCall} {item : Item} {pos : Int}
  {slot : Fin WEAR_MAX} {handle itemHandle : UInt32}

theorem step_deterministic : Deterministic Step := by
  intro w c w' w'' hstep hstep'
  rw [Step] at hstep hstep'
  rw [hstep] at hstep'
  cases hstep'
  rfl

theorem not_holds_create (character : UInt32) :
    ¬(create character).inventory.Holds slot handle := by
  intro h
  cases h

theorem not_announced_create (character : UInt32) :
    lastAnnounced (create character).sent handle ≠ some pos := by
  intro h
  cases h

theorem kept_create (character : UInt32) : (create character).Kept where
  once _ _ _ h := absurd h (not_holds_create character)
  told _ _ h := absurd h (not_announced_create character)
  keys := UnorderedMap.every_empty
  held _ _ h := absurd h (not_holds_create character)
  known _ _ h := absurd h (not_announced_create character)

theorem Kept.call_addItem (h : w.Kept)
    (hstep : w.Step (.addItem item) w') : w'.Kept := by
  rw [Step, call] at hstep
  split at hstep
  · cases hstep
  cases hstep
  have hannounced : ((w.inventory.insert item).sendInventoryForItems
      [item]).flatMap EquipmentPacket.announced = [(item.handle,
        (w.inventory.insert item).getEquipPosition item)] :=
    Inventory.announced_sendInventoryForItems
  constructor
  · constructor
    · exact h.once
    · intro handle pos hlast
      rcases lastAnnounced_cases hlast with hnow | ⟨hbefore, -⟩
      · rw [hannounced, List.mem_singleton, Prod.mk.injEq] at hnow
        rw [hnow.left, hnow.right]
        exact Inventory.wears_getEquipPosition _ item
      · exact h.told handle pos hbefore
  · exact Inventory.keys_insert h.keys
  · intro slot handle hholds
    exact Inventory.mem_insert.mpr (Or.inr (h.held slot handle hholds))
  · intro handle pos hlast
    apply Inventory.mem_insert.mpr
    rcases lastAnnounced_cases hlast with hnow | ⟨hbefore, -⟩
    · rw [hannounced, List.mem_singleton, Prod.mk.injEq] at hnow
      exact Or.inl hnow.left
    · exact Or.inr (h.known handle pos hbefore)

theorem Kept.call_sendInventory (h : w.Kept)
    {order : UnorderedMap.Visit UInt32 Item}
    (hstep : w.Step (.sendInventory order) w') : w'.Kept := by
  cases hstep
  constructor
  · constructor
    · exact h.once
    · intro handle pos hlast
      rcases lastAnnounced_cases hlast with hnow | ⟨hbefore, -⟩
      · rw [Inventory.announced_sendInventory] at hnow
        rcases List.mem_map.mp hnow with ⟨e, -, heq⟩
        cases heq
        exact Inventory.wears_getEquipPosition w.inventory e.2
      · exact h.told handle pos hbefore
  · exact h.keys
  · exact h.held
  · intro handle pos hlast
    rcases lastAnnounced_cases hlast with hnow | ⟨hbefore, -⟩
    · rw [Inventory.announced_sendInventory] at hnow
      rcases List.mem_map.mp hnow with ⟨e, he, heq⟩
      cases heq
      have hlookup := UnorderedMap.Visit.mem_order.mp he
      rw [h.keys e.1 e.2 hlookup]
      exact UnorderedMap.mem_iff_lookup.mpr ⟨e.2, hlookup⟩
    · exact h.known handle pos hbefore

theorem mem_announced_takenOff {v : Inventory} :
    (handle, pos) ∈ (match v.equippedItem slot with
      | some other => [v.sendItemWearInfo other WEAR_NONE]
      | none => []).flatMap EquipmentPacket.announced ↔
      v.Holds slot handle ∧ pos = WEAR_NONE := by
  rw [Inventory.Holds]
  split
  · rename_i other hother
    rw [List.flatMap_cons, List.flatMap_nil, List.append_nil,
      Inventory.announced_sendItemWearInfo (by decide) (by decide),
      List.mem_singleton, Prod.mk.injEq, hother, Option.map_some,
      Option.some.injEq, eq_comm]
  · rename_i hnone
    rw [hnone, List.flatMap_nil]
    exact ⟨fun hmem => absurd hmem List.not_mem_nil,
      fun hboth => nomatch hboth.left⟩

theorem Consistent.wears_none (h : w.Consistent) {other : Option Item}
    (hholds : w.inventory.Holds slot handle)
    (hother : other.map Item.handle ≠ some handle) :
    (w.inventory.setSlot slot other).Wears handle WEAR_NONE := by
  refine Or.inr ⟨fun slot' => ?_, rfl⟩
  rw [Inventory.holds_setSlot]
  split
  · exact hother
  · rename_i hne
    exact fun hslot' => hne (h.once slot' slot handle hslot' hholds)

theorem Kept.call_unequipItem (h : w.Kept)
    (hstep : w.Step (.unequipItem pos) w') : w'.Kept := by
  rw [Step, call] at hstep
  rw [Inventory.unequipItem] at hstep
  split at hstep
  rename_i inventory packets hresult
  cases hstep
  split at hresult
  · rename_i slot hslot
    cases hresult
    constructor
    · constructor
      · intro slot1 slot2 handle h1 h2
        rw [Inventory.holds_setSlot] at h1 h2
        split at h1
        · cases h1
        · split at h2
          · cases h2
          · exact h.once slot1 slot2 handle h1 h2
      · intro handle pos hlast
        rcases lastAnnounced_cases hlast with hnow | ⟨hbefore, hunsaid⟩
        · rcases mem_announced_takenOff.mp hnow with ⟨hholds, rfl⟩
          exact h.toConsistent.wears_none hholds (by simp)
        · have hnot : ¬w.inventory.Holds slot handle := fun hholds =>
            hunsaid WEAR_NONE (mem_announced_takenOff.mpr ⟨hholds, rfl⟩)
          exact (Inventory.wears_setSlot hnot (by simp)).mpr
            (h.told handle pos hbefore)
    · exact h.keys
    · intro slot' handle hholds
      rw [Inventory.holds_setSlot] at hholds
      split at hholds
      · cases hholds
      · exact h.held slot' handle hholds
    · intro handle pos hlast
      rcases lastAnnounced_cases hlast with hnow | ⟨hbefore, -⟩
      · exact h.held slot handle (mem_announced_takenOff.mp hnow).left
      · exact h.known handle pos hbefore
  · cases hresult
    rw [List.append_nil]
    exact h

theorem Kept.call_equipItem (h : w.Kept)
    (hgood : ¬w.Misplaces (.equipItem itemHandle pos))
    (hstep : w.Step (.equipItem itemHandle pos) w') : w'.Kept := by
  rw [Step, call, Inventory.equipItem] at hstep
  split at hstep
  rename_i inventory packets hresult
  cases hstep
  split at hresult
  · rename_i slot item hslot hlookup
    cases hresult
    have hhandle : item.handle = itemHandle := h.keys itemHandle item hlookup
    have hmem : itemHandle ∈ w.inventory.items :=
      UnorderedMap.mem_iff_lookup.mpr ⟨item, hlookup⟩
    have honly : forall slot', w.inventory.Holds slot' itemHandle ->
        slot' = slot := by
      intro slot' hholds
      by_contra hne
      exact hgood ⟨slot, slot', hslot, hne, hmem, hholds⟩
    rcases Inventory.slotOf_some hslot with ⟨hpos, hlow, hhigh⟩
    have hsaid : ([w.inventory.sendItemWearInfo item pos]).flatMap
        EquipmentPacket.announced = [(itemHandle, pos)] := by
      rw [List.flatMap_cons, List.flatMap_nil, List.append_nil,
        Inventory.announced_sendItemWearInfo hlow hhigh, hhandle]
    have hafter : forall slot' handle,
        (w.inventory.setSlot slot (some item)).Holds slot' handle ↔
          if slot' = slot then itemHandle = handle
          else w.inventory.Holds slot' handle := by
      intro slot' handle
      rw [Inventory.holds_setSlot, Option.map_some, Option.some.injEq, hhandle]
    constructor
    · constructor
      · intro slot1 slot2 handle h1 h2
        rw [hafter] at h1 h2
        split at h1
        · rename_i heq1
          split at h2
          · rename_i heq2
            rw [heq1, heq2]
          · rw [← h1] at h2
            rw [heq1, honly slot2 h2]
        · split at h2
          · rename_i heq2
            rw [← h2] at h1
            rw [heq2, honly slot1 h1]
          · exact h.once slot1 slot2 handle h1 h2
      · intro handle pos' hlast
        rw [← List.append_assoc] at hlast
        rcases lastAnnounced_cases hlast with hnow | ⟨hbefore, hunsaid⟩
        · rw [hsaid, List.mem_singleton, Prod.mk.injEq] at hnow
          rw [hnow.left, hnow.right]
          refine Or.inl ⟨slot, ?_, hpos⟩
          rw [hafter, if_pos rfl]
        · have hne : (some item).map Item.handle ≠ some handle := by
            intro heq
            rw [Option.map_some, Option.some.injEq, hhandle] at heq
            apply hunsaid pos
            rw [hsaid, heq]
            exact List.mem_singleton_self _
          rcases lastAnnounced_cases hbefore with hnow | ⟨hbefore, hunsaid⟩
          · rcases mem_announced_takenOff.mp hnow with ⟨hholds, rfl⟩
            exact h.toConsistent.wears_none hholds hne
          · have hnot : ¬w.inventory.Holds slot handle := fun hholds =>
              hunsaid WEAR_NONE (mem_announced_takenOff.mpr ⟨hholds, rfl⟩)
            exact (Inventory.wears_setSlot hnot hne).mpr
              (h.told handle pos' hbefore)
    · exact h.keys
    · intro slot' handle hholds
      rw [hafter] at hholds
      split at hholds
      · rw [← hholds]
        exact hmem
      · exact h.held slot' handle hholds
    · intro handle pos' hlast
      rw [← List.append_assoc] at hlast
      rcases lastAnnounced_cases hlast with hnow | ⟨hbefore, -⟩
      · rw [hsaid, List.mem_singleton, Prod.mk.injEq] at hnow
        rw [hnow.left]
        exact hmem
      · rcases lastAnnounced_cases hbefore with hnow | ⟨hbefore, -⟩
        · exact h.held slot handle (mem_announced_takenOff.mp hnow).left
        · exact h.known handle pos' hbefore
  · cases hresult
    rw [List.append_nil]
    exact h

theorem Kept.not_consistent_equipItem (h : w.Kept)
    (hbad : w.Misplaces (.equipItem itemHandle pos))
    (hstep : w.Step (.equipItem itemHandle pos) w') : ¬w'.Consistent := by
  intro hconsistent
  rcases hbad with ⟨slot, slot', hslot, hne, hmem, hholds⟩
  rcases UnorderedMap.mem_iff_lookup.mp hmem with ⟨item, hlookup⟩
  have hhandle : item.handle = itemHandle := h.keys itemHandle item hlookup
  rw [Step, call, Inventory.equipItem, hslot, hlookup] at hstep
  cases hstep
  apply hne
  apply hconsistent.once slot' slot itemHandle
  · rw [Inventory.holds_setSlot, if_neg hne]
    exact hholds
  · rw [Inventory.holds_setSlot, if_pos rfl, Option.map_some, hhandle]

theorem holds_initializeItems {dbItems : List DbItem} {v : Inventory}
    (h : (v.initializeItems dbItems).Holds slot handle) :
    (exists dbItem, dbItem ∈ dbItems ∧
        Inventory.slotOf dbItem.wear_info = some slot ∧
        dbItem.item.handle = handle) ∨
      (forall dbItem, dbItem ∈ dbItems ->
        Inventory.slotOf dbItem.wear_info ≠ some slot) ∧
        v.Holds slot handle := by
  rcases Inventory.initializeItems_slot dbItems v slot with
    ⟨dbItem, hmem, hslot, hitem⟩ | ⟨hnone, hsame⟩
  · rw [Inventory.Holds, hitem, Option.map_some, Option.some.injEq] at h
    exact Or.inl ⟨dbItem, hmem, hslot, h⟩
  · rw [Inventory.Holds, hsame] at h
    exact Or.inr ⟨hnone, h⟩

theorem holds_initializeItems_iff {dbItems : List DbItem} {v : Inventory}
    (hold : forall dbItem, dbItem ∈ dbItems -> dbItem.item.handle ≠ handle) :
    (v.initializeItems dbItems).Holds slot handle ↔
      (forall dbItem, dbItem ∈ dbItems ->
        Inventory.slotOf dbItem.wear_info ≠ some slot) ∧
        v.Holds slot handle := by
  constructor
  · intro h
    rcases holds_initializeItems h with ⟨dbItem, hmem, -, heq⟩ | hbefore
    · exact absurd heq (hold dbItem hmem)
    · exact hbefore
  · rintro ⟨hnone, hholds⟩
    rcases Inventory.initializeItems_slot dbItems v slot with
      ⟨dbItem, hmem, hslot, -⟩ | ⟨-, hsame⟩
    · exact absurd hslot (hnone dbItem hmem)
    · rw [Inventory.Holds, hsame]
      exact hholds

theorem call_initializeItems {dbItems : List DbItem}
    (hstep : w.Step (.initializeItems dbItems) w') :
    (dbItems.map fun dbItem => dbItem.item.handle).Nodup ∧
      (forall dbItem, dbItem ∈ dbItems ->
        dbItem.item.handle ∉ w.inventory.items) ∧
      w' = { w with inventory := w.inventory.initializeItems dbItems } := by
  rw [Step, call] at hstep
  split at hstep
  · rename_i hnew
    cases hstep
    exact ⟨hnew.left, hnew.right, rfl⟩
  · cases hstep

theorem Kept.call_initializeItems (h : w.Kept) {dbItems : List DbItem}
    (hgood : ¬w.Misplaces (.initializeItems dbItems))
    (hstep : w.Step (.initializeItems dbItems) w') : w'.Kept := by
  rcases Wardrobe.call_initializeItems hstep with ⟨hnodup, hfresh, rfl⟩
  constructor
  · constructor
    · intro slot1 slot2 handle h1 h2
      rcases holds_initializeItems h1 with
        ⟨dbItem1, hmem1, hslot1, heq1⟩ | ⟨-, hbefore1⟩
      · rcases holds_initializeItems h2 with
          ⟨dbItem2, hmem2, hslot2, heq2⟩ | ⟨-, hbefore2⟩
        · have hsame := List.inj_on_of_nodup_map hnodup hmem1 hmem2
            (heq1.trans heq2.symm)
          rw [hsame, hslot2] at hslot1
          exact (Option.some.inj hslot1).symm
        · rw [← heq1] at hbefore2
          exact absurd (h.held slot2 _ hbefore2) (hfresh dbItem1 hmem1)
      · rcases holds_initializeItems h2 with
          ⟨dbItem2, hmem2, hslot2, heq2⟩ | ⟨-, hbefore2⟩
        · rw [← heq2] at hbefore1
          exact absurd (h.held slot1 _ hbefore1) (hfresh dbItem2 hmem2)
        · exact h.once slot1 slot2 handle hbefore1 hbefore2
    · intro handle pos hlast
      have hold : forall dbItem, dbItem ∈ dbItems ->
          dbItem.item.handle ≠ handle := by
        intro dbItem hmem heq
        apply hfresh dbItem hmem
        rw [heq]
        exact h.known handle pos hlast
      refine (Inventory.wears_congr fun slot => ?_).mpr
        (h.told handle pos hlast)
      rw [holds_initializeItems_iff hold]
      refine ⟨And.right, fun hholds => ⟨?_, hholds⟩⟩
      intro dbItem hmem hslot
      apply hgood
      refine ⟨dbItem, slot, handle, hmem, hslot, hholds, ?_⟩
      rw [Option.isSome_iff_exists]
      exact ⟨pos, hlast⟩
  · exact Inventory.keys_initializeItems dbItems h.keys
  · intro slot handle hholds
    rw [Inventory.mem_initializeItems]
    rcases holds_initializeItems hholds with
      ⟨dbItem, hmem, -, heq⟩ | ⟨-, hbefore⟩
    · exact Or.inl ⟨dbItem, hmem, heq⟩
    · exact Or.inr (h.held slot handle hbefore)
  · intro handle pos hlast
    exact (Inventory.mem_initializeItems dbItems w.inventory).mpr
      (Or.inr (h.known handle pos hlast))

theorem Kept.not_consistent_initializeItems (h : w.Kept)
    {dbItems : List DbItem} (hbad : w.Misplaces (.initializeItems dbItems))
    (hstep : w.Step (.initializeItems dbItems) w') : ¬w'.Consistent := by
  intro hconsistent
  rcases Wardrobe.call_initializeItems hstep with ⟨-, hfresh, rfl⟩
  rcases hbad with ⟨dbItem, slot, handle, hmem, hslot, hholds, hsome⟩
  rcases Option.isSome_iff_exists.mp hsome with ⟨pos, hlast⟩
  have hold : forall dbItem, dbItem ∈ dbItems ->
      dbItem.item.handle ≠ handle := by
    intro other hother heq
    apply hfresh other hother
    rw [heq]
    exact h.known handle pos hlast
  have hpos : pos = slot.val := by
    rcases h.told handle pos hlast with ⟨slot', hslot', heq⟩ | ⟨hnone, -⟩
    · rw [heq, h.once slot' slot handle hslot' hholds]
    · exact absurd hholds (hnone slot)
  rcases hconsistent.told handle pos hlast with
    ⟨slot', hslot', heq⟩ | ⟨-, hnone⟩
  · rw [holds_initializeItems_iff hold] at hslot'
    have hsame := h.once slot' slot handle hslot'.right hholds
    rw [hsame] at hslot'
    exact hslot'.left dbItem hmem hslot
  · rw [hpos, WEAR_NONE] at hnone
    lia

/-!
## Runs of calls
-/

theorem Kept.step (h : w.Kept) (hstep : w.Step c w')
    (hgood : ¬w.Misplaces c) : w'.Kept := by
  cases c with
  | initializeItems dbItems => exact h.call_initializeItems hgood hstep
  | addItem item => exact h.call_addItem hstep
  | equipItem itemHandle pos => exact h.call_equipItem hgood hstep
  | unequipItem pos => exact h.call_unequipItem hstep
  | sendInventory order => exact h.call_sendInventory hstep

theorem Kept.not_consistent (h : w.Kept) (hstep : w.Step c w')
    (hbad : w.Misplaces c) : ¬w'.Consistent := by
  cases c with
  | initializeItems dbItems =>
      exact h.not_consistent_initializeItems hbad hstep
  | equipItem itemHandle pos => exact h.not_consistent_equipItem hbad hstep
  | addItem | unequipItem | sendInventory => exact absurd hbad id

def sword : Item :=
  { handle := 1
    sid := 7
    summon_id := 0
    idx := 1
    code := 103100
    count := 1
    level := 1
    enhance := 0
    ethereal_durability := 0
    endurance := 0
    flag := 0
    socket := 0
    remain_time := 0
    elemental_effect_type := 0
    appearance_code := 0 }

theorem step_addSword : exists w, (create 5).Step (.addItem sword) w ∧
    sword.handle ∈ w.inventory.items := by
  refine ⟨_, rfl, ?_⟩
  exact Inventory.mem_insert.mpr (Or.inl rfl)

end Wardrobe

end Game
end Rzu
