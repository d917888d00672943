import Rzu.Auction.PageCustody

/-!
# The end of a category

A category is ended when the queue is empty and no client holds a request.
The workers that are stopping are not asked: they keep their request as long
as their connection lasts, and an answer may still reach them.
-/

namespace Rzu
namespace Auction
namespace AuctionManager

open Library

variable {m m' : AuctionManager} {w n : Nat} {r : AuctionRequest}
variable {hand : Multiset AuctionRequest}

/-- Every page of the current category is at one place. -/
def Accounted (m : AuctionManager) : Prop :=
  exists n : Nat, m.totalPages = n ∧ Custody m n 0

/-- No category was ended too early. -/
def NothingMissing (m : AuctionManager) : Prop :=
  forall e, e ∈ m.endings -> e.Complete

/--
An answer without new pages arrives while the queue is empty, no other client
holds a request, but another worker that is stopping holds one of the current
category.
-/
def Overlooked (m : AuctionManager) (e : Event) : Prop :=
  exists w totalPageCount request, e = .searchResult w totalPageCount ∧
    m.request w = some request ∧ totalPageCount ≤ m.totalPages ∧
    m.pendingRequests = [] ∧
    (forall w', w' ∈ m.clients -> w' ≠ w -> m.request w' = none) ∧
    exists w' request', w' ∈ m.stoppingClients ∧ w' ≠ w ∧
      m.request w' = some request' ∧
      request'.category = m.currentCategory

theorem isAllRequestProcessed_iff :
    m.isAllRequestProcessed = true ↔ m.pendingRequests = [] ∧
      forall w, w ∈ m.clients -> m.request w = none := by
  simp only [isAllRequestProcessed, Bool.and_eq_true, List.isEmpty_iff,
    List.all_eq_true, AuctionWorker.hasRequest, Bool.not_eq_true',
    Option.isSome_eq_false_iff, Option.isNone_iff_eq_none, request]

/-!
## Answers
-/

theorem request_answerRequest_self :
    (m.answerRequest w r).request w = none :=
  request_setWorker_self _ w _

theorem request_answerRequest_ne {w' : Nat} (h : w' ≠ w) :
    (m.answerRequest w r).request w' = m.request w' :=
  (request_setWorker_ne _ _ h).trans (request_setWorker_ne _ _ h)

theorem Custody.startDelay (h : Custody m n hand) (w : Nat) :
    Custody (m.startDelay w) n hand :=
  h.setWorker rfl (h.unconnected w)

theorem Custody.answerRequest (h : Custody m n hand) (hw : w ∈ m.workers)
    (hr : m.request w = some r) :
    Custody (m.answerRequest w r) n hand ∧
      (m.answerRequest w r).firstPage ∈ (m.answerRequest w r).answered := by
  have hdelayed := h.startDelay w
  have hheld : (m.startDelay w).request w = some r := by
    rw [AuctionManager.startDelay, request_setWorker_self]
    exact hr
  have hreleased : Custody ((m.startDelay w).releaseRequest w) n (r ::ₘ hand) :=
    hdelayed.release hw hheld rfl
  exact ⟨hreleased.record, hreleased.record_begun⟩

theorem onAuctionSearchResult_none (h : m.request w = none)
    (totalPageCount : Int) :
    m.onAuctionSearchResult w totalPageCount = m.startDelay w := by
  rw [onAuctionSearchResult, h]

theorem onAuctionSearchResult_some (h : m.request w = some r)
    (totalPageCount : Int) :
    m.onAuctionSearchResult w totalPageCount =
      if m.totalPages < totalPageCount then
        { (m.answerRequest w r).addRequests r.category m.totalPages
            (totalPageCount - m.totalPages).toNat with
          totalPages := totalPageCount }
      else if (m.answerRequest w r).isAllRequestProcessed then
        (m.answerRequest w r).onAllRequestProcessed
      else
        m.answerRequest w r := by
  have htotal : (m.answerRequest w r).totalPages = m.totalPages := rfl
  rw [onAuctionSearchResult, h]
  simp only [onAuctionSearchCompleted, htotal]
  split
  · contradiction
  · split
    · rfl
    · rename_i hfew
      have hzero : (totalPageCount - m.totalPages).toNat = 0 := by lia
      rw [hzero]
      rfl

/-!
## Completeness
-/

theorem mem_held_ending : r ∈ m.ending.held ↔ r ∈ m.taken :=
  Iff.rfl

theorem Custody.complete (h : Custody m n 0) (htotal : m.totalPages = n)
    (hpending : m.pendingRequests = []) (htaken : m.taken = 0) :
    m.ending.Complete := by
  constructor
  · intro page hlow hhigh
    change page ≤ m.totalPages at hhigh
    have hmem : ({ category := m.currentCategory, page := page } :
        AuctionRequest) ∈ firstPages m.currentCategory n :=
      mem_firstPages.mpr ⟨rfl, hlow, htotal ▸ hhigh⟩
    rw [← h.pages, hpending, htaken, Multiset.coe_nil,
      Multiset.add_zero, Multiset.add_zero, Multiset.add_zero,
      Multiset.mem_coe] at hmem
    exact hmem
  · intro r hr
    rw [mem_held_ending, htaken] at hr
    exact absurd hr (Multiset.notMem_zero r)

theorem Custody.taken_of_complete (h : Custody m n hand)
    (hcomplete : m.ending.Complete) : m.taken = 0 := by
  rw [Multiset.eq_zero_iff_forall_notMem]
  intro r hr
  exact hcomplete.right r (mem_held_ending.mpr hr)
    (mem_firstPages.mp (h.mem_taken hr)).left

theorem Custody.endCategory (h : Custody m n 0)
    (hpending : m.pendingRequests = []) (htaken : m.taken = 0) :
    Custody m.endCategory 1
      ({ category := m.nextCategory.1, page := 1 } ::ₘ 0) where
  nodup := h.nodup
  created := h.created
  unconnected := h.unconnected
  pages := by
    change (0 : Multiset AuctionRequest) +
      (m.pendingRequests : Multiset AuctionRequest) + m.taken + _ = _
    rw [hpending, htaken]
    rfl
  begun := Or.inl rfl

theorem Custody.onAllRequestProcessed (h : Custody m n 0)
    (hpending : m.pendingRequests = []) (htaken : m.taken = 0) :
    Custody m.onAllRequestProcessed 1 0 :=
  (h.endCategory hpending htaken).addRequest

theorem endings_onAllRequestProcessed (m : AuctionManager) :
    m.onAllRequestProcessed.endings = m.endings ++ [m.ending] :=
  (m.endCategory.kept_addRequest m.nextCategory.1 1).endings

theorem totalPages_onAllRequestProcessed (m : AuctionManager) :
    m.onAllRequestProcessed.totalPages = 1 :=
  (m.endCategory.kept_addRequest m.nextCategory.1 1).totalPages

/-!
## Events that end nothing
-/

theorem Custody.onAuctionSearchFailed (h : Custody m n hand)
    (hw : w ∈ m.workers) : Custody (m.onAuctionSearchFailed w) n hand := by
  have hdelayed := h.startDelay w
  rw [AuctionManager.onAuctionSearchFailed]
  split
  · exact hdelayed
  · rename_i request hr
    have hheld : (m.startDelay w).request w = some request := by
      rw [AuctionManager.startDelay, request_setWorker_self]
      exact hr
    have hreleased :
        Custody ((m.startDelay w).releaseRequest w) n (request ::ₘ hand) :=
      hdelayed.release hw hheld rfl
    exact hreleased.giveBack

theorem Custody.onDisconnected (h : Custody m n hand) (hw : w ∈ m.workers) :
    Custody (m.onDisconnected w) n hand := by
  rw [AuctionManager.onDisconnected]
  split
  · rename_i hnone
    exact h.setWorker hnone.symm fun _ => rfl
  · rename_i request hr
    have hreleased : Custody (m.disconnectWorker w) n (request ::ₘ hand) :=
      h.release hw hr rfl
    exact hreleased.giveBack

theorem Custody.onConnected (h : Custody m n hand) (hw : w ∈ m.workers) :
    Custody (m.onConnected w) n hand := by
  have hconnected : Custody (m.setWorker w
      { m.worker w with isConnected := true, idle := true }) n hand :=
    h.setWorker rfl fun hfalse => by cases hfalse
  exact hconnected.wakeUp hw

theorem Custody.onDelayTimer (h : Custody m n hand) (hw : w ∈ m.workers) :
    Custody (m.onDelayTimer w) n hand := by
  have hexpired : Custody (m.setWorker w
      { m.worker w with auctionDelayTimer := false }) n hand :=
    h.setWorker rfl (h.unconnected w)
  exact hexpired.onAuctionTimer hw

theorem Custody.loadAccounts (h : Custody m n hand) (accounts : Nat) :
    Custody (m.loadAccounts accounts) n hand where
  nodup := by
    rw [workers, AuctionManager.loadAccounts, List.append_assoc,
      List.nodup_append]
    have hnodup := h.nodup
    rw [workers, List.nodup_append] at hnodup
    rcases hnodup with ⟨hclients, hstopping, hdisjoint⟩
    refine ⟨hclients, ?_, ?_⟩
    · rw [List.nodup_append]
      refine ⟨List.nodup_range', hstopping, ?_⟩
      intro w hw w' hw' heq
      have hold := h.created w' (List.mem_append_right _ hw')
      have hnew := (List.mem_range'_1.mp hw).left
      lia
    · intro w hw w' hw' heq
      rcases List.mem_append.mp hw' with hnew | hold
      · have hcreated := h.created w (List.mem_append_left _ hw)
        have hlow := (List.mem_range'_1.mp hnew).left
        lia
      · exact hdisjoint w hw w' hold heq
  created := by
    intro w hw
    change w < m.created + accounts
    rw [workers, AuctionManager.loadAccounts] at hw
    rcases List.mem_append.mp hw with hclient | hstopping
    · rcases List.mem_append.mp hclient with hold | hnew
      · have hcreated := h.created w (List.mem_append_left _ hold)
        lia
      · exact (List.mem_range'_1.mp hnew).right
    · have hcreated := h.created w (List.mem_append_right _ hstopping)
      lia
  unconnected := by
    intro w hw
    change (if m.created ≤ w ∧ w < m.created + accounts then
      AuctionWorker.new else m.worker w).request = none
    change (if m.created ≤ w ∧ w < m.created + accounts then
      AuctionWorker.new else m.worker w).isConnected = false at hw
    split
    · rfl
    · rename_i hold
      rw [if_neg hold] at hw
      exact h.unconnected w hw
  pages := by
    have hold : forall w, w ∈ m.workers ->
        (m.loadAccounts accounts).request w = m.request w := by
      intro w hw
      have hcreated := h.created w hw
      exact congrArg AuctionWorker.request (if_neg (by lia))
    have hnew : held (List.range' m.created accounts)
        (m.loadAccounts accounts).request = 0 := by
      rw [held_eq_zero]
      intro w hw
      have hrange := List.mem_range'_1.mp hw
      exact congrArg AuctionWorker.request (if_pos hrange)
    have htaken : (m.loadAccounts accounts).taken = m.taken := by
      change held ((m.clients ++ List.range' m.created accounts) ++
        m.stoppingClients) (m.loadAccounts accounts).request = _
      rw [held_append, held_append, hnew, Multiset.add_zero, ← held_append]
      exact held_congr hold
    rw [htaken]
    exact h.pages
  begun := h.begun

theorem Custody.stopClients (h : Custody m n hand) :
    Custody m.stopClients n hand := by
  have hperm : m.stopClients.workers.Perm m.workers := by
    rw [workers, workers, AuctionManager.stopClients, List.nil_append]
    exact List.perm_append_comm
  have htaken : m.stopClients.taken = m.taken :=
    Multiset.coe_eq_coe.mpr (hperm.filterMap m.request)
  refine ⟨hperm.nodup_iff.mpr h.nodup, ?_, h.unconnected, ?_, h.begun⟩
  · intro w hw
    exact h.created w (hperm.mem_iff.mp hw)
  · rw [htaken]
    exact h.pages

theorem Custody.onClientStopped (h : Custody m n hand)
    (hunconnected : (m.worker w).isConnected = false) :
    Custody (m.onClientStopped w) n hand := by
  have hleft : Custody
      { m with stoppingClients := m.stoppingClients.erase w } n hand := by
    have hsub : (m.clients ++ m.stoppingClients.erase w).Sublist m.workers :=
      List.Sublist.append_left List.erase_sublist _
    refine ⟨h.nodup.sublist hsub, ?_, h.unconnected, ?_, h.begun⟩
    · intro w' hw'
      exact h.created w' (hsub.subset hw')
    · have htaken : held (m.clients ++ m.stoppingClients.erase w) m.request =
          m.taken := by
        rw [taken, workers, held_append, held_append,
          held_erase (h.unconnected w hunconnected)]
      have hpages := h.pages
      rw [← htaken] at hpages
      exact hpages
  rw [AuctionManager.onClientStopped]
  split
  · exact ⟨hleft.nodup, hleft.created, hleft.unconnected, hleft.pages,
      hleft.begun⟩
  · exact hleft

theorem Custody.onReloadAccounts (h : Custody m n hand) (accounts : Nat) :
    Custody (m.onReloadAccounts accounts) n hand := by
  have hreloading : Custody { m with reloadingAccounts := true } n hand :=
    ⟨h.nodup, h.created, h.unconnected, h.pages, h.begun⟩
  rw [AuctionManager.onReloadAccounts]
  split
  · exact h
  · rw [reloadAccounts]
    split
    · simp only
      split
      · exact hreloading.stopClients.loadAccounts accounts
      · exact hreloading.stopClients
    · exact h

theorem Custody.onAccountReloadTimer (h : Custody m n hand)
    (accounts : Nat) : Custody (m.onAccountReloadTimer accounts) n hand := by
  have hexpired : Custody { m with accountReloadTimer := false } n hand :=
    ⟨h.nodup, h.created, h.unconnected, h.pages, h.begun⟩
  have hloaded := hexpired.loadAccounts accounts
  exact ⟨hloaded.nodup, hloaded.created, hloaded.unconnected, hloaded.pages,
    hloaded.begun⟩

theorem Custody.stop (h : Custody m n hand) : Custody m.stop n hand := by
  have hstopped : Custody { m with stopped := true } n hand :=
    ⟨h.nodup, h.created, h.unconnected, h.pages, h.begun⟩
  exact hstopped.stopClients

/-!
## Runs
-/

/-- The ends of categories are recorded, and the number of pages kept. -/
structure Quiet (m m' : AuctionManager) : Prop where
  totalPages : m'.totalPages = m.totalPages
  endings : m'.endings = m.endings

theorem answers_or_not (m : AuctionManager) (e : Event) :
    (forall w totalPageCount, e = .searchResult w totalPageCount ->
      m.request w = none) ∨
    exists w totalPageCount r, e = .searchResult w totalPageCount ∧
      m.request w = some r := by
  by_cases h : exists w totalPageCount r,
      e = .searchResult w totalPageCount ∧ m.request w = some r
  · exact Or.inr h
  · left
    intro w totalPageCount heq
    rw [Option.eq_none_iff_forall_ne_some]
    intro r hr
    exact h ⟨w, totalPageCount, r, heq, hr⟩

theorem quiet_handle {e : Event}
    (hquiet : forall w totalPageCount, e = .searchResult w totalPageCount ->
      m.request w = none) : Quiet m (m.handle e) := by
  cases e with
  | searchResult w totalPageCount =>
      rw [handle, onAuctionSearchResult_none (hquiet w totalPageCount rfl)]
      exact ⟨rfl, rfl⟩
  | searchFailed w =>
      rw [handle, onAuctionSearchFailed]
      split
      · exact ⟨rfl, rfl⟩
      · exact ⟨rfl, rfl⟩
  | delayTimer w =>
      have hkept := kept_onAuctionTimer
        (m.setWorker w { m.worker w with auctionDelayTimer := false }) w
      exact ⟨hkept.totalPages, hkept.endings⟩
  | connected w =>
      have hkept := kept_wakeUp
        (m.setWorker w { m.worker w with isConnected := true, idle := true }) w
      exact ⟨hkept.totalPages, hkept.endings⟩
  | disconnected w =>
      rw [handle, onDisconnected]
      split
      · exact ⟨rfl, rfl⟩
      · exact ⟨rfl, rfl⟩
  | clientStopped w =>
      rw [handle, onClientStopped]
      split
      · exact ⟨rfl, rfl⟩
      · exact ⟨rfl, rfl⟩
  | reloadAccounts accounts =>
      rw [handle, onReloadAccounts]
      split
      · exact ⟨rfl, rfl⟩
      · rw [reloadAccounts]
        split
        · simp only
          split
          · exact ⟨rfl, rfl⟩
          · exact ⟨rfl, rfl⟩
        · exact ⟨rfl, rfl⟩
  | accountReloadTimer accounts => exact ⟨rfl, rfl⟩
  | stop => exact ⟨rfl, rfl⟩

theorem Custody.handle (h : Custody m n 0) {e : Event} (he : m.Enabled e)
    (hquiet : forall w totalPageCount, e = .searchResult w totalPageCount ->
      m.request w = none) : Custody (m.handle e) n 0 := by
  cases e with
  | searchResult w totalPageCount =>
      rw [AuctionManager.handle,
        onAuctionSearchResult_none (hquiet w totalPageCount rfl)]
      exact h.startDelay w
  | searchFailed w => exact h.onAuctionSearchFailed he
  | delayTimer w => exact h.onDelayTimer he.left
  | connected w => exact h.onConnected he.left
  | disconnected w => exact h.onDisconnected he.left
  | clientStopped w => exact h.onClientStopped he.right
  | reloadAccounts accounts => exact h.onReloadAccounts accounts
  | accountReloadTimer accounts => exact h.onAccountReloadTimer accounts
  | stop => exact h.stop

theorem endings_onAuctionSearchResult (hr : m.request w = some r)
    (totalPageCount : Int) :
    (m.onAuctionSearchResult w totalPageCount).endings =
      if totalPageCount ≤ m.totalPages ∧
          (m.answerRequest w r).isAllRequestProcessed = true then
        m.endings ++ [(m.answerRequest w r).ending]
      else
        m.endings := by
  rw [onAuctionSearchResult_some hr]
  split
  · rename_i hmore
    rw [if_neg (by lia)]
    exact (kept_addRequests _ _ _ _).endings
  · rename_i hfew
    split
    · rename_i hall
      rw [if_pos ⟨by lia, hall⟩]
      exact endings_onAllRequestProcessed _
    · rename_i hopen
      rw [if_neg fun h => hopen h.right]
      rfl

theorem Accounted.onAuctionSearchResult (h : Accounted m)
    (hw : w ∈ m.workers) (hr : m.request w = some r) {totalPageCount : Int}
    (hcomplete : NothingMissing (m.onAuctionSearchResult w totalPageCount)) :
    Accounted (m.onAuctionSearchResult w totalPageCount) := by
  rcases h with ⟨n, htotal, hcustody⟩
  rcases hcustody.answerRequest hw hr with ⟨hanswered, hfirst⟩
  rw [NothingMissing, endings_onAuctionSearchResult hr] at hcomplete
  rw [onAuctionSearchResult_some hr]
  split
  · rename_i hmore
    have hcategory : r.category = m.currentCategory :=
      (mem_firstPages.mp (hcustody.mem_taken
        (Custody.taken_of_request hw hr))).left
    have hloaded := hanswered.addRequests hfirst
      (totalPageCount - m.totalPages).toNat hcategory htotal
    refine ⟨n + (totalPageCount - m.totalPages).toNat, ?_, ?_⟩
    · change totalPageCount = _
      lia
    · exact ⟨hloaded.nodup, hloaded.created, hloaded.unconnected,
        hloaded.pages, hloaded.begun⟩
  · rename_i hfew
    split
    · rename_i hall
      rw [if_pos ⟨by lia, hall⟩] at hcomplete
      have hending := hcomplete _ (List.mem_append_right _
        (List.mem_singleton_self _))
      have hpending := (isAllRequestProcessed_iff.mp hall).left
      have htaken := hanswered.taken_of_complete hending
      exact ⟨1, totalPages_onAllRequestProcessed _,
        hanswered.onAllRequestProcessed hpending htaken⟩
    · exact ⟨n, htotal, hanswered⟩

theorem Accounted.step (h : Accounted m) {e : Event} (hstep : Step m e m')
    (hcomplete : NothingMissing m') : Accounted m' := by
  rcases hstep with ⟨he, heq⟩
  subst heq
  rcases answers_or_not m e with hquiet | ⟨w, totalPageCount, r, heq, hr⟩
  · rcases h with ⟨n, htotal, hcustody⟩
    exact ⟨n, (quiet_handle hquiet).totalPages.trans htotal,
      hcustody.handle he hquiet⟩
  · subst heq
    exact h.onAuctionSearchResult he hr hcomplete

theorem endings_step {e : Event} (hstep : Step m e m') :
    exists later, m'.endings = m.endings ++ later := by
  rcases hstep with ⟨-, heq⟩
  subst heq
  rcases answers_or_not m e with hquiet | ⟨w, totalPageCount, r, heq, hr⟩
  · exact ⟨[], by rw [(quiet_handle hquiet).endings, List.append_nil]⟩
  · subst heq
    rw [handle, endings_onAuctionSearchResult hr]
    split
    · exact ⟨_, rfl⟩
    · exact ⟨[], (List.append_nil _).symm⟩

theorem NothingMissing.before {e : Event} (hstep : Step m e m')
    (h : NothingMissing m') : NothingMissing m := by
  rcases endings_step hstep with ⟨later, heq⟩
  intro ending hending
  apply h
  rw [heq]
  exact List.mem_append_left _ hending

theorem custody_new :
    Custody new 1 ({ category := 0, page := 1 } ::ₘ 0) where
  nodup := List.nodup_nil
  created := fun _ hw => absurd hw List.not_mem_nil
  unconnected := fun _ _ => rfl
  pages := rfl
  begun := Or.inl rfl

theorem kept_start (accounts : Nat) :
    (start accounts).totalPages = 1 ∧ (start accounts).endings = [] :=
  ⟨(kept_addRequest _ 0 1).totalPages, (kept_addRequest _ 0 1).endings⟩

theorem accounted_start (accounts : Nat) : Accounted (start accounts) := by
  have hloaded := custody_new.loadAccounts accounts
  have hready : Custody
      { new.loadAccounts accounts with
        stopped := false
        pendingRequests := []
        totalPages := 1
        currentCategory := 0 } 1
      ({ category := 0, page := 1 } ::ₘ 0) :=
    ⟨hloaded.nodup, hloaded.created, hloaded.unconnected, hloaded.pages,
      hloaded.begun⟩
  exact ⟨1, (kept_start accounts).left, hready.addRequest⟩

theorem Runs.accounted {accounts : Nat} {history : List Event}
    (hrun : Runs accounts history m) (h : NothingMissing m) :
    Accounted m := by
  induction hrun with
  | nil => exact accounted_start accounts
  | snoc before last ih => exact (ih (h.before last)).step last h

/-!
## Endings that overlook a worker
-/

/-- The category is ended although a worker that stops holds a page of it. -/
theorem Overlooked.step {e : Event} (h : Overlooked m e)
    (hstep : Step m e m') : ¬NothingMissing m' := by
  rcases h with ⟨w, totalPageCount, r, heq, hr, hfew, hpending, hclients,
    w', r', hstopping, hne, hr', hcategory⟩
  rcases hstep with ⟨-, hm'⟩
  subst heq hm'
  have hall : (m.answerRequest w r).isAllRequestProcessed = true := by
    rw [isAllRequestProcessed_iff]
    refine ⟨hpending, ?_⟩
    intro c hc
    by_cases hsame : c = w
    · rw [hsame]
      exact request_answerRequest_self
    · rw [request_answerRequest_ne hsame]
      exact hclients c hc hsame
  intro hmissing
  rw [NothingMissing, handle, endings_onAuctionSearchResult hr,
    if_pos ⟨hfew, hall⟩] at hmissing
  have hcomplete := hmissing _ (List.mem_append_right _
    (List.mem_singleton_self _))
  apply hcomplete.right r' _ hcategory
  have hstill : (m.answerRequest w r).request w' = some r' := by
    rw [request_answerRequest_ne hne]
    exact hr'
  have hworker : w' ∈ (m.answerRequest w r).workers :=
    List.mem_append_right _ hstopping
  exact mem_held_ending.mpr (Custody.taken_of_request hworker hstill)

/-- Other endings are complete. -/
theorem NothingMissing.step {e : Event} (h : NothingMissing m)
    (haccounted : Accounted m) (hstep : Step m e m')
    (hseen : ¬Overlooked m e) : NothingMissing m' := by
  rcases hstep with ⟨he, heq⟩
  subst heq
  rcases answers_or_not m e with hquiet | ⟨w, totalPageCount, r, heq, hr⟩
  · rw [NothingMissing, (quiet_handle hquiet).endings]
    exact h
  · subst heq
    rw [NothingMissing, handle, endings_onAuctionSearchResult hr]
    split
    · rename_i hends
      rcases hends with ⟨hfew, hall⟩
      rcases haccounted with ⟨n, htotal, hcustody⟩
      rcases isAllRequestProcessed_iff.mp hall with ⟨hpending, hclients⟩
      have htaken : (m.answerRequest w r).taken = 0 := by
        rw [taken, held_eq_zero]
        intro c hc
        rcases List.mem_append.mp hc with hclient | hstopping
        · exact hclients c hclient
        · by_cases hsame : c = w
          · rw [hsame]
            exact request_answerRequest_self
          · rw [request_answerRequest_ne hsame,
              Option.eq_none_iff_forall_ne_some]
            intro r' hr'
            apply hseen
            refine ⟨w, totalPageCount, r, rfl, hr, hfew, hpending, ?_, c, r',
              hstopping, hsame, hr', ?_⟩
            · intro w' hw' hother
              have hnone := hclients w' hw'
              rw [request_answerRequest_ne hother] at hnone
              exact hnone
            · exact (mem_firstPages.mp (hcustody.mem_taken
                (Custody.taken_of_request hc hr'))).left
      have hcomplete : (m.answerRequest w r).ending.Complete :=
        (hcustody.answerRequest he hr).left.complete htotal hpending htaken
      intro ending hending
      rcases List.mem_append.mp hending with hold | hnew
      · exact h ending hold
      · rw [List.mem_singleton.mp hnew]
        exact hcomplete
    · exact h

/--
In a run, no category is ended with a page missing or a request on its way,
exactly if no ending overlooks a worker that is stopping.
-/
theorem nothingMissing_iff_avoids_overlooked {accounts : Nat}
    {history : List Event} (hrun : Runs accounts history m) :
    Throughout Step (start accounts) NothingMissing history ↔
      Avoids Step (start accounts) Overlooked history := by
  apply throughout_iff_avoids step_deterministic _ _ _ hrun
  · intro ending hending
    rw [(kept_start accounts).right] at hending
    exact absurd hending List.not_mem_nil
  · intro history m e m' hbefore hmissing hstep hseen
    exact hmissing.step (Runs.accounted hbefore hmissing) hstep hseen
  · intro history m e m' hbefore hstep hoverlooked
    exact hoverlooked.step hstep

/-- Events that can follow one another. -/
def Possible : AuctionManager -> List Event -> Prop
  | _, [] => True
  | m, e :: events => m.Enabled e ∧ (m.handle e).Possible events

instance decidablePossible :
    (m : AuctionManager) -> (events : List Event) ->
      Decidable (m.Possible events)
  | _, [] => inferInstanceAs (Decidable True)
  | m, e :: events =>
      have := (m.handle e).decidablePossible events
      inferInstanceAs (Decidable (_ ∧ _))

theorem Possible.run {start : AuctionManager} {history events : List Event}
    (hrun : Run Step start history m) (h : m.Possible events) :
    Run Step start (history ++ events) (events.foldl handle m) := by
  induction events generalizing m history with
  | nil =>
      rw [List.append_nil]
      exact hrun
  | cons e events ih =>
      rw [List.append_cons]
      exact ih (Run.snoc hrun ⟨h.left, rfl⟩) h.right

theorem nothingMissing_iff_avoids_overlooked_connected :
    Runs 1 [.connected 0] ((start 1).handle (.connected 0)) ∧
      (Throughout Step (start 1) NothingMissing [.connected 0] ↔
        Avoids Step (start 1) Overlooked [.connected 0]) := by
  have hpossible : (start 1).Possible [.connected 0] := by decide
  have hrun : Runs 1 [.connected 0] ((start 1).handle (.connected 0)) :=
    hpossible.run Run.nil
  exact ⟨hrun, nothingMissing_iff_avoids_overlooked hrun⟩

/--
Two workers hold pages 2 and 3 when the accounts are reloaded.  The answer to
page 3 still arrives, and ends the category without page 2.
-/
theorem not_nothingMissing_reload :
    ¬forall (accounts : Nat) (history : List Event) (m : AuctionManager),
      Runs accounts history m -> NothingMissing m := by
  intro h
  have hpossible : (start 2).Possible
      [.connected 0, .connected 1, .searchResult 0 3, .delayTimer 0,
        .reloadAccounts 2, .searchResult 0 3] := by decide
  have hmissing := h 2 _ _ (hpossible.run Run.nil)
  have hcomplete := hmissing
    { category := 0
      totalPages := 3
      answered :=
        [{ category := 0, page := 1 }, { category := 0, page := 3 }]
      held := [{ category := 0, page := 2 }] } (by decide)
  exact hcomplete.right { category := 0, page := 2 } (by decide) rfl

end AuctionManager
end Auction
end Rzu
