import Mathlib.Data.Multiset.Range
import Mathlib.Data.Multiset.UnionInter
import Rzu.Auction.Manager

/-!
# Custody of pages

Each page of the current category is at one place: it was answered, it waits
in the queue, a worker holds it, or it is in the hand of the code that runs.
-/

namespace Rzu
namespace Auction

open Library

/-- Requests for the first pages of a category. -/
def firstPages (category : Int) (count : Nat) : Multiset AuctionRequest :=
  (Multiset.range count).map fun i : Nat =>
    { category := category, page := (i : Int) + 1 }

theorem firstPages_succ (category : Int) (count : Nat) :
    firstPages category (count + 1) =
      { category := category, page := (count : Int) + 1 } ::ₘ
        firstPages category count := by
  rw [firstPages, Multiset.range_succ, Multiset.map_cons]
  rfl

theorem mem_firstPages {category : Int} {count : Nat} {r : AuctionRequest} :
    r ∈ firstPages category count ↔
      r.category = category ∧ 1 ≤ r.page ∧ r.page ≤ count := by
  rw [firstPages, Multiset.mem_map]
  constructor
  · rintro ⟨i, hi, heq⟩
    rw [Multiset.mem_range] at hi
    subst heq
    exact ⟨rfl, by lia, by lia⟩
  · rintro ⟨hcategory, hlow, hhigh⟩
    refine ⟨(r.page - 1).toNat, Multiset.mem_range.mpr (by lia), ?_⟩
    cases r with
    | mk c page =>
        cases hcategory
        simp only [AuctionRequest.mk.injEq, true_and]
        change 1 ≤ page at hlow
        lia

theorem nodup_firstPages (category : Int) (count : Nat) :
    (firstPages category count).Nodup := by
  apply Multiset.Nodup.map _ (Multiset.nodup_range count)
  intro i j heq
  simp only [AuctionRequest.mk.injEq, true_and] at heq
  lia

namespace AuctionManager

variable {m m' : AuctionManager} {w n : Nat} {r : AuctionRequest}
variable {hand : Multiset AuctionRequest}

def taken (m : AuctionManager) : Multiset AuctionRequest :=
  held m.workers m.request

def firstPage (m : AuctionManager) : AuctionRequest where
  category := m.currentCategory
  page := 1

/-!
## What handing out requests keeps
-/

/-- The fields that requests are handed out without touching. -/
structure Kept (m m' : AuctionManager) : Prop where
  clients : m'.clients = m.clients
  stoppingClients : m'.stoppingClients = m.stoppingClients
  created : m'.created = m.created
  totalPages : m'.totalPages = m.totalPages
  currentCategory : m'.currentCategory = m.currentCategory
  endings : m'.endings = m.endings

namespace Kept

theorem refl (m : AuctionManager) : Kept m m :=
  ⟨rfl, rfl, rfl, rfl, rfl, rfl⟩

theorem trans {m'' : AuctionManager} (h : Kept m m') (h' : Kept m' m'') :
    Kept m m'' where
  clients := h'.clients.trans h.clients
  stoppingClients := h'.stoppingClients.trans h.stoppingClients
  created := h'.created.trans h.created
  totalPages := h'.totalPages.trans h.totalPages
  currentCategory := h'.currentCategory.trans h.currentCategory
  endings := h'.endings.trans h.endings

theorem workers (h : Kept m m') : m'.workers = m.workers := by
  rw [AuctionManager.workers, AuctionManager.workers, h.clients,
    h.stoppingClients]

end Kept

theorem kept_setWorker (m : AuctionManager) (w : Nat)
    (value : AuctionWorker) : Kept m (m.setWorker w value) :=
  ⟨rfl, rfl, rfl, rfl, rfl, rfl⟩

theorem kept_getNextRequest (m : AuctionManager) :
    Kept m m.getNextRequest.2 := by
  rw [getNextRequest]
  split
  · exact Kept.refl m
  · split
    · exact ⟨rfl, rfl, rfl, rfl, rfl, rfl⟩
    · exact ⟨rfl, rfl, rfl, rfl, rfl, rfl⟩

theorem kept_doAuctionSearch (m : AuctionManager) (w : Nat) :
    Kept m (m.doAuctionSearch w).2 := by
  have hnext := m.kept_getNextRequest
  rw [doAuctionSearch]
  split
  · split
    · rename_i request m' heq
      rw [heq] at hnext
      exact hnext.trans (kept_setWorker m' w _)
    · rename_i m' heq
      rw [heq] at hnext
      exact hnext
  · exact Kept.refl m

theorem kept_onAuctionTimer (m : AuctionManager) (w : Nat) :
    Kept m (m.onAuctionTimer w) :=
  (m.kept_doAuctionSearch w).trans (kept_setWorker _ w _)

theorem kept_wakeUp (m : AuctionManager) (w : Nat) :
    Kept m (m.wakeUp w) := by
  rw [wakeUp]
  split
  · exact m.kept_onAuctionTimer w
  · exact Kept.refl m

theorem kept_wakeUpClients (m : AuctionManager) (clients : List Nat) :
    Kept m (m.wakeUpClients clients) := by
  induction clients generalizing m with
  | nil => exact Kept.refl m
  | cons w clients ih =>
      rw [wakeUpClients]
      split
      · exact ih m
      · exact (m.kept_wakeUp w).trans (ih _)

theorem kept_addRequest (m : AuctionManager) (category page : Int) :
    Kept m (m.addRequest category page) := by
  have hqueued : Kept m (m.withRequest category page) :=
    ⟨rfl, rfl, rfl, rfl, rfl, rfl⟩
  exact hqueued.trans (kept_wakeUpClients _ m.clients)

theorem kept_addRequests (m : AuctionManager) (category page : Int)
    (count : Nat) : Kept m (m.addRequests category page count) := by
  induction count generalizing m page with
  | zero => exact Kept.refl m
  | succ count ih =>
      exact (m.kept_addRequest category (page + 1)).trans (ih _ _)

/-!
## The invariant
-/

/--
The first `n` pages of the current category are each at one place; `hand` is
with the code that runs.
-/
structure Custody (m : AuctionManager) (n : Nat)
    (hand : Multiset AuctionRequest) : Prop where
  nodup : m.workers.Nodup
  created : forall w, w ∈ m.workers -> w < m.created
  unconnected : forall w, (m.worker w).isConnected = false ->
    m.request w = none
  pages :
    (m.answered : Multiset AuctionRequest) +
        (m.pendingRequests : Multiset AuctionRequest) + m.taken + hand =
      firstPages m.currentCategory n
  /-- More pages are known only from an answer. -/
  begun : n = 1 ∨ m.firstPage ∈ m.answered

namespace Custody

theorem mem_answered (h : Custody m n hand) (hr : r ∈ m.answered) :
    r ∈ firstPages m.currentCategory n := by
  rw [← h.pages]
  simp only [Multiset.mem_add, Multiset.mem_coe]
  exact Or.inl (Or.inl (Or.inl hr))

theorem mem_taken (h : Custody m n hand) (hr : r ∈ m.taken) :
    r ∈ firstPages m.currentCategory n := by
  rw [← h.pages]
  simp only [Multiset.mem_add, Multiset.mem_coe]
  exact Or.inl (Or.inr hr)

theorem mem_hand (h : Custody m n hand) (hr : r ∈ hand) :
    r ∈ firstPages m.currentCategory n := by
  rw [← h.pages]
  simp only [Multiset.mem_add, Multiset.mem_coe]
  exact Or.inr hr

theorem answered_nil (h : Custody m n hand)
    (hfirst : m.firstPage ∈ m.pendingRequests) : m.answered = [] := by
  have hpages := h.pages
  have hnodup := nodup_firstPages m.currentCategory n
  have hnotAnswered : m.firstPage ∉ m.answered := by
    intro hanswered
    rw [← hpages, Multiset.nodup_add, Multiset.nodup_add,
      Multiset.nodup_add] at hnodup
    exact Multiset.disjoint_left.mp hnodup.1.1.2.2 hanswered hfirst
  rcases h.begun with hone | hanswered
  · subst hone
    rw [List.eq_nil_iff_forall_not_mem]
    intro r hr
    have hmem := h.mem_answered hr
    have heq : r = m.firstPage := Multiset.mem_singleton.mp hmem
    rw [heq] at hr
    exact hnotAnswered hr
  · exact absurd hanswered hnotAnswered

theorem taken_of_request (hw : w ∈ m.workers) (hr : m.request w = some r) :
    r ∈ m.taken :=
  mem_held.mpr ⟨w, hw, hr⟩

theorem unconnected_setWorker (h : Custody m n hand) {value : AuctionWorker}
    (hvalue : value.isConnected = false -> value.request = none) (w' : Nat)
    (hw' : ((m.setWorker w value).worker w').isConnected = false) :
    (m.setWorker w value).request w' = none := by
  by_cases heq : w' = w
  · subst heq
    rw [setWorker_self] at hw'
    rw [request_setWorker_self]
    exact hvalue hw'
  · rw [setWorker_ne m value heq] at hw'
    rw [request_setWorker_ne m value heq]
    exact h.unconnected w' hw'

theorem setWorker (h : Custody m n hand) {value : AuctionWorker}
    (hrequest : value.request = m.request w)
    (hunconnected : value.isConnected = false -> value.request = none) :
    Custody (m.setWorker w value) n hand where
  nodup := h.nodup
  created := h.created
  unconnected := h.unconnected_setWorker hunconnected
  pages := by
    have htaken : (m.setWorker w value).taken = m.taken := by
      apply held_congr
      intro w' hw'
      by_cases heq : w' = w
      · subst heq
        rw [request_setWorker_self]
        exact hrequest
      · exact request_setWorker_ne m value heq
    rw [htaken]
    exact h.pages
  begun := h.begun

theorem release (h : Custody m n hand) (hw : w ∈ m.workers)
    (hr : m.request w = some r) {value : AuctionWorker}
    (hnone : value.request = none) :
    Custody (m.setWorker w value) n (r ::ₘ hand) where
  nodup := h.nodup
  created := h.created
  unconnected := h.unconnected_setWorker fun _ => hnone
  pages := by
    have htaken : m.taken = r ::ₘ (m.setWorker w value).taken := by
      apply held_release h.nodup hw hr
      · exact fun w' hne => request_setWorker_ne m value hne
      · rw [request_setWorker_self]
        exact hnone
    have hpages := h.pages
    rw [htaken, Multiset.add_cons, Multiset.cons_add] at hpages
    rw [Multiset.add_cons]
    exact hpages
  begun := h.begun

theorem take (h : Custody m n (r ::ₘ hand)) (hw : w ∈ m.workers)
    (hnone : m.request w = none) {value : AuctionWorker}
    (hr : value.request = some r) (hconnected : value.isConnected = true) :
    Custody (m.setWorker w value) n hand where
  nodup := h.nodup
  created := h.created
  unconnected := by
    apply h.unconnected_setWorker
    intro hfalse
    rw [hconnected] at hfalse
    cases hfalse
  pages := by
    have htaken : (m.setWorker w value).taken = r ::ₘ m.taken := by
      apply held_take h.nodup hw hnone
      · exact fun w' hne => request_setWorker_ne m value hne
      · rw [request_setWorker_self]
        exact hr
    have hpages := h.pages
    rw [Multiset.add_cons] at hpages
    rw [htaken, Multiset.add_cons, Multiset.cons_add]
    exact hpages
  begun := h.begun

theorem giveBack (h : Custody m n (r ::ₘ hand)) :
    Custody { m with pendingRequests := r :: m.pendingRequests } n hand where
  nodup := h.nodup
  created := h.created
  unconnected := h.unconnected
  pages := by
    have hpages := h.pages
    rw [Multiset.add_cons] at hpages
    rw [← Multiset.cons_coe, Multiset.add_cons, Multiset.cons_add,
      Multiset.cons_add]
    exact hpages
  begun := h.begun

theorem record (h : Custody m n (r ::ₘ hand)) :
    Custody { m with answered := m.answered ++ [r] } n hand where
  nodup := h.nodup
  created := h.created
  unconnected := h.unconnected
  pages := by
    have hpages := h.pages
    rw [Multiset.add_cons] at hpages
    rw [← Multiset.coe_add, Multiset.coe_singleton, Multiset.add_comm _ {r},
      Multiset.singleton_add, Multiset.cons_add, Multiset.cons_add,
      Multiset.cons_add]
    exact hpages
  begun := by
    rcases h.begun with hone | hfirst
    · exact Or.inl hone
    · exact Or.inr (List.mem_append_left _ hfirst)

theorem record_begun (h : Custody m n (r ::ₘ hand)) :
    m.firstPage ∈ m.answered ++ [r] := by
  rcases h.begun with hone | hfirst
  · subst hone
    have hmem := h.mem_hand (Multiset.mem_cons_self r hand)
    have heq : r = m.firstPage := Multiset.mem_singleton.mp hmem
    rw [heq]
    exact List.mem_append_right _ (List.mem_singleton_self _)
  · exact List.mem_append_left _ hfirst

theorem learn (h : Custody m n hand) (hfirst : m.firstPage ∈ m.answered) :
    Custody m (n + 1)
      ({ category := m.currentCategory, page := (n : Int) + 1 } ::ₘ hand) where
  nodup := h.nodup
  created := h.created
  unconnected := h.unconnected
  pages := by
    rw [Multiset.add_cons, h.pages, firstPages_succ]
  begun := Or.inr hfirst

theorem queue {category page : Int}
    (h : Custody m n ({ category := category, page := page } ::ₘ hand)) :
    Custody (m.withRequest category page) n hand where
  nodup := h.nodup
  created := h.created
  unconnected := h.unconnected
  pages := by
    have hqueued : ((m.withRequest category page).pendingRequests :
        Multiset AuctionRequest) =
          { category := category, page := page } ::ₘ
            (m.pendingRequests : Multiset AuctionRequest) := by
      rw [withRequest, ← Multiset.coe_add, Multiset.coe_singleton,
        Multiset.add_comm, Multiset.singleton_add]
    have hpages := h.pages
    rw [Multiset.add_cons] at hpages
    rw [hqueued, Multiset.add_cons, Multiset.cons_add, Multiset.cons_add]
    exact hpages
  begun := h.begun

theorem getNextRequest (h : Custody m n hand) {m' : AuctionManager}
    (hnext : m.getNextRequest = (some r, m')) :
    Custody m' n (r ::ₘ hand) ∧ m'.worker = m.worker := by
  rw [AuctionManager.getNextRequest] at hnext
  split at hnext
  · cases hnext
  · rename_i request requests hpending
    have hpages := h.pages
    rw [hpending, ← Multiset.cons_coe, Multiset.add_cons,
      Multiset.cons_add, Multiset.cons_add] at hpages
    split at hnext
    · rename_i hfirst
      cases hnext
      have heq : r = m.firstPage := by
        cases r with
        | mk category page =>
            rcases hfirst with ⟨hpage, hcategory⟩
            cases hpage
            cases hcategory
            rfl
      have hnil : m.answered = [] := by
        apply h.answered_nil
        rw [hpending, ← heq]
        exact List.mem_cons_self
      refine ⟨⟨h.nodup, h.created, h.unconnected, ?_, ?_⟩, rfl⟩
      · rw [hnil] at hpages
        rw [Multiset.add_cons]
        exact hpages
      · rcases h.begun with hone | hanswered
        · exact Or.inl hone
        · rw [hnil] at hanswered
          exact absurd hanswered List.not_mem_nil
    · cases hnext
      refine ⟨⟨h.nodup, h.created, h.unconnected, ?_, h.begun⟩, rfl⟩
      rw [Multiset.add_cons]
      exact hpages

theorem getNextRequest_none {m' : AuctionManager}
    (hnext : m.getNextRequest = (none, m')) : m' = m := by
  rw [AuctionManager.getNextRequest] at hnext
  split at hnext
  · cases hnext
    rfl
  · split at hnext
    · cases hnext
    · cases hnext

/-!
## Handing out requests
-/

theorem doAuctionSearch (h : Custody m n hand) (hw : w ∈ m.workers) :
    Custody (m.doAuctionSearch w).2 n hand := by
  rw [AuctionManager.doAuctionSearch]
  split
  · rename_i hready
    split
    · rename_i r m' hnext
      rcases h.getNextRequest hnext with ⟨hpopped, hworker⟩
      have hkept := m.kept_getNextRequest
      rw [hnext] at hkept
      apply hpopped.take
      · rw [hkept.workers]
        exact hw
      · rw [AuctionManager.request, hworker]
        exact hready.left
      · rfl
      · change (m'.worker w).isConnected = true
        rw [hworker]
        exact hready.right
    · rename_i m' hnext
      rw [getNextRequest_none hnext]
      exact h
  · exact h

theorem onAuctionTimer (h : Custody m n hand) (hw : w ∈ m.workers) :
    Custody (m.onAuctionTimer w) n hand := by
  have hsearched := h.doAuctionSearch hw
  exact hsearched.setWorker rfl (hsearched.unconnected w)

theorem wakeUp (h : Custody m n hand) (hw : w ∈ m.workers) :
    Custody (m.wakeUp w) n hand := by
  rw [AuctionManager.wakeUp]
  split
  · exact h.onAuctionTimer hw
  · exact h

theorem wakeUpClients (h : Custody m n hand) {clients : List Nat}
    (hclients : forall w, w ∈ clients -> w ∈ m.workers) :
    Custody (m.wakeUpClients clients) n hand := by
  induction clients generalizing m with
  | nil => exact h
  | cons w clients ih =>
      have hw := hclients w List.mem_cons_self
      have hlater : forall w', w' ∈ clients -> w' ∈ m.workers :=
        fun w' hw' => hclients w' (List.mem_cons_of_mem _ hw')
      rw [AuctionManager.wakeUpClients]
      split
      · exact ih h hlater
      · apply ih (h.wakeUp hw)
        rw [(m.kept_wakeUp w).workers]
        exact hlater

theorem mem_workers_of_client (hw : w ∈ m.clients) : w ∈ m.workers :=
  List.mem_append_left _ hw

theorem addRequest {category page : Int}
    (h : Custody m n ({ category := category, page := page } ::ₘ hand)) :
    Custody (m.addRequest category page) n hand :=
  h.queue.wakeUpClients fun _ => mem_workers_of_client

theorem begun_of_ne (h : Custody m n hand) (hne : n ≠ 1) :
    m.firstPage ∈ m.answered := by
  rcases h.begun with hone | hfirst
  · exact absurd hone hne
  · exact hfirst

theorem pos (h : Custody m n hand) : 0 < n := by
  rcases h.begun with hone | hfirst
  · lia
  · have hmem := mem_firstPages.mp (h.mem_answered hfirst)
    lia

theorem addRequests (h : Custody m n hand)
    (hfirst : m.firstPage ∈ m.answered) (count : Nat) {category page : Int}
    (hcategory : category = m.currentCategory) (hpage : page = (n : Int)) :
    Custody (m.addRequests category page count) (n + count) hand := by
  induction count generalizing m n page with
  | zero => exact h
  | succ count ih =>
      subst hcategory hpage
      have hadded := (h.learn hfirst).addRequest
      have hkept := m.kept_addRequest m.currentCategory ((n : Int) + 1)
      rw [AuctionManager.addRequests, Nat.add_comm count 1, ← Nat.add_assoc]
      apply ih hadded
      · apply hadded.begun_of_ne
        have hpos := h.pos
        lia
      · exact hkept.currentCategory.symm
      · rfl

end Custody

end AuctionManager

end Auction
end Rzu
