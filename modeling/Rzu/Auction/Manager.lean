import Mathlib.Logic.Function.Basic
import Rzu.Library.Holders
import Rzu.Library.Run

/-!
# The auction manager

`AuctionManager` walks through the categories of the auction house.  It queues
a request for each page of the current category, and `AuctionWorker`s, one for
each account, take the requests and wait for the answer of the game server.
-/

namespace Rzu
namespace Auction

open Library

/-- `AuctionWorker::AuctionRequest` -/
structure AuctionRequest where
  category : Int
  page : Int
deriving Repr, DecidableEq

/-- The part of an `AuctionWorker` that takes and answers requests. -/
structure AuctionWorker where
  isConnected : Bool
  idle : Bool
  /-- Whether `auctionDelayTimer` is running. -/
  auctionDelayTimer : Bool
  request : Option AuctionRequest
deriving Repr, DecidableEq

namespace AuctionWorker

def new : AuctionWorker where
  isConnected := false
  idle := true
  auctionDelayTimer := false
  request := none

def hasRequest (w : AuctionWorker) : Bool :=
  w.request.isSome

end AuctionWorker

/-- The calls of the manager that tell the writer where a category ends. -/
inductive WriterCall where
  | beginProcess
  | beginCategory (category : Int)
  | endCategory (category : Int)
  | endProcess
  | dumpAuctions
deriving Repr, DecidableEq

/--
What was known when the processing of a category was ended: the pages
answered since it began, and what the clients still hold.
-/
structure Ending where
  category : Int
  totalPages : Int
  answered : List AuctionRequest
  held : List AuctionRequest
deriving Repr, DecidableEq

/-- Nothing of the category is missing, and nothing is on its way. -/
def Ending.Complete (e : Ending) : Prop :=
  (forall page, 1 ≤ page -> page ≤ e.totalPages ->
    { category := e.category, page := page } ∈ e.answered) ∧
  forall request, request ∈ e.held -> request.category ≠ e.category

/--
`AuctionManager`, with its workers on a heap.  `calls`, `answered` and
`endings` only record what happens: no decision depends on them.
-/
structure AuctionManager where
  worker : Nat -> AuctionWorker
  /-- Workers from this one on were not created yet. -/
  created : Nat
  clients : List Nat
  stoppingClients : List Nat
  pendingRequests : List AuctionRequest
  stopped : Bool
  totalPages : Int
  currentCategory : Int
  reloadingAccounts : Bool
  /-- Whether `accountReloadTimer` is running. -/
  accountReloadTimer : Bool
  calls : List WriterCall
  answered : List AuctionRequest
  endings : List Ending

namespace AuctionManager

/-- `CATEGORY_MAX_INDEX` -/
def categoryMaxIndex : Int :=
  19

def workers (m : AuctionManager) : List Nat :=
  m.clients ++ m.stoppingClients

/-- What a worker holds. -/
def request (m : AuctionManager) (w : Nat) : Option AuctionRequest :=
  (m.worker w).request

def setWorker (m : AuctionManager) (w : Nat) (value : AuctionWorker) :
    AuctionManager :=
  { m with worker := Function.update m.worker w value }

@[simp]
theorem setWorker_self (m : AuctionManager) (w : Nat)
    (value : AuctionWorker) : (m.setWorker w value).worker w = value :=
  Function.update_self _ _ _

theorem setWorker_ne (m : AuctionManager) {w w' : Nat}
    (value : AuctionWorker) (h : w' ≠ w) :
    (m.setWorker w value).worker w' = m.worker w' :=
  Function.update_of_ne h _ _

@[simp]
theorem request_setWorker_self (m : AuctionManager) (w : Nat)
    (value : AuctionWorker) :
    (m.setWorker w value).request w = value.request := by
  rw [request, setWorker_self]

theorem request_setWorker_ne (m : AuctionManager) {w w' : Nat}
    (value : AuctionWorker) (h : w' ≠ w) :
    (m.setWorker w value).request w' = m.request w' := by
  rw [request, setWorker_ne m value h, request]

/-!
## Handing out requests
-/

/-- `getNextRequest`; page 1 begins the category. -/
def getNextRequest (m : AuctionManager) :
    Option AuctionRequest × AuctionManager :=
  match m.pendingRequests with
  | [] => (none, m)
  | request :: requests =>
      let popped := { m with pendingRequests := requests }
      if request.page = 1 ∧ request.category = m.currentCategory then
        (some request,
          { popped with
            calls := m.calls ++ [.beginCategory request.category]
            answered := [] })
      else
        (some request, popped)

/-- `AuctionWorker::doAuctionSearch` -/
def doAuctionSearch (m : AuctionManager) (w : Nat) : Bool × AuctionManager :=
  if (m.worker w).request = none ∧ (m.worker w).isConnected = true then
    match m.getNextRequest with
    | (some request, m') =>
        (true, m'.setWorker w { m'.worker w with request := some request })
    | (none, m') => (false, m')
  else
    (false, m)

/-- `AuctionWorker::onAuctionTimer` -/
def onAuctionTimer (m : AuctionManager) (w : Nat) : AuctionManager :=
  match m.doAuctionSearch w with
  | (sent, m') => m'.setWorker w { m'.worker w with idle := !sent }

/-- `AuctionWorker::wakeUp` -/
def wakeUp (m : AuctionManager) (w : Nat) : AuctionManager :=
  if (m.worker w).request = none ∧ (m.worker w).isConnected = true ∧
      (m.worker w).idle = true then
    m.onAuctionTimer w
  else
    m

def wakeUpClients (m : AuctionManager) : List Nat -> AuctionManager
  | [] => m
  | w :: clients =>
      (if (m.worker w).hasRequest then m else m.wakeUp w).wakeUpClients clients

def withRequest (m : AuctionManager) (category page : Int) :
    AuctionManager :=
  { m with
    pendingRequests :=
      m.pendingRequests ++ [{ category := category, page := page }] }

def addRequest (m : AuctionManager) (category page : Int) : AuctionManager :=
  (m.withRequest category page).wakeUpClients m.clients

/-- Requests for the pages after `page`, so many of them. -/
def addRequests (m : AuctionManager) (category page : Int) :
    Nat -> AuctionManager
  | 0 => m
  | count + 1 =>
      (m.addRequest category (page + 1)).addRequests category (page + 1) count

/-!
## The end of a category
-/

def isAllRequestProcessed (m : AuctionManager) : Bool :=
  m.pendingRequests.isEmpty &&
    m.clients.all fun w => !(m.worker w).hasRequest

/-- What is known of the current category. -/
def ending (m : AuctionManager) : Ending where
  category := m.currentCategory
  totalPages := m.totalPages
  answered := m.answered
  held := m.workers.filterMap m.request

/-- The category after the current one, and how the writer hears of it. -/
def nextCategory (m : AuctionManager) : Int × List WriterCall :=
  if categoryMaxIndex ≤ m.currentCategory + 1 then
    (0, [.endProcess, .dumpAuctions, .beginProcess])
  else
    (m.currentCategory + 1, [])

/-- The state in which `onAllRequestProcessed` requests page 1. -/
def endCategory (m : AuctionManager) : AuctionManager :=
  { m with
    calls := m.calls ++ .endCategory m.currentCategory :: m.nextCategory.2
    currentCategory := m.nextCategory.1
    totalPages := 1
    answered := []
    endings := m.endings ++ [m.ending] }

def onAllRequestProcessed (m : AuctionManager) : AuctionManager :=
  m.endCategory.addRequest m.nextCategory.1 1

/-- `onAuctionSearchCompleted`; a `success` tells how many pages there are. -/
def onAuctionSearchCompleted (m : AuctionManager) (success : Bool)
    (pageTotal : Int) : Option AuctionRequest -> AuctionManager
  | none => m
  | some request =>
      if success = false then
        { m with pendingRequests := request :: m.pendingRequests }
      else
        let loaded : AuctionManager :=
          m.addRequests request.category m.totalPages
            (pageTotal - m.totalPages).toNat
        if m.totalPages < pageTotal then
          { loaded with totalPages := pageTotal }
        else if loaded.isAllRequestProcessed then
          loaded.onAllRequestProcessed
        else
          loaded

/-!
## Events of a worker
-/

/-- The delay until the next search starts, whatever the answer is. -/
def startDelay (m : AuctionManager) (w : Nat) : AuctionManager :=
  m.setWorker w { m.worker w with auctionDelayTimer := true }

def releaseRequest (m : AuctionManager) (w : Nat) : AuctionManager :=
  m.setWorker w { m.worker w with request := none }

/-- A request is moved out of its worker, and its page is answered. -/
def answerRequest (m : AuctionManager) (w : Nat) (request : AuctionRequest) :
    AuctionManager :=
  let released := (m.startDelay w).releaseRequest w
  { released with answered := released.answered ++ [request] }

/-- `AuctionWorker::onAuctionSearchResult` -/
def onAuctionSearchResult (m : AuctionManager) (w : Nat)
    (totalPageCount : Int) : AuctionManager :=
  match m.request w with
  | none => m.startDelay w
  | some request =>
      (m.answerRequest w request).onAuctionSearchCompleted true totalPageCount
        (some request)

/-- `AuctionWorker::onAuctionSearchFailed` -/
def onAuctionSearchFailed (m : AuctionManager) (w : Nat) : AuctionManager :=
  match m.request w with
  | none => m.startDelay w
  | some request =>
      ((m.startDelay w).releaseRequest w).onAuctionSearchCompleted false 0
        (some request)

/-- `AuctionWorker::onConnected` -/
def onConnected (m : AuctionManager) (w : Nat) : AuctionManager :=
  (m.setWorker w
    { m.worker w with isConnected := true, idle := true }).wakeUp w

/-- A worker that lost its connection, its request moved out of it. -/
def disconnectWorker (m : AuctionManager) (w : Nat) : AuctionManager :=
  m.setWorker w
    { isConnected := false
      idle := true
      auctionDelayTimer := false
      request := none }

/-- `AuctionWorker::onDisconnected` -/
def onDisconnected (m : AuctionManager) (w : Nat) : AuctionManager :=
  match m.request w with
  | none => m.disconnectWorker w
  | some request =>
      (m.disconnectWorker w).onAuctionSearchCompleted false request.page
        (some request)

/-- `auctionDelayTimer` fires once. -/
def onDelayTimer (m : AuctionManager) (w : Nat) : AuctionManager :=
  (m.setWorker w
    { m.worker w with auctionDelayTimer := false }).onAuctionTimer w

/-!
## Accounts
-/

/-- `loadAccounts`, with so many accounts in the file. -/
def loadAccounts (m : AuctionManager) (accounts : Nat) : AuctionManager :=
  { m with
    worker := fun w =>
      if m.created ≤ w ∧ w < m.created + accounts then AuctionWorker.new
      else m.worker w
    created := m.created + accounts
    clients := m.clients ++ List.range' m.created accounts }

/--
`stopClients`.  A worker that stops goes on with its connection as long as the
shutdown takes.
-/
def stopClients (m : AuctionManager) : AuctionManager :=
  { m with
    clients := []
    stoppingClients := m.stoppingClients ++ m.clients }

/-- `reloadAccounts` -/
def reloadAccounts (m : AuctionManager) (accounts : Nat) : AuctionManager :=
  if m.stoppingClients.isEmpty then
    let reloading : AuctionManager := { m with reloadingAccounts := true }
    let stopping := reloading.stopClients
    if stopping.stoppingClients.isEmpty then
      stopping.loadAccounts accounts
    else
      stopping
  else
    m

/-- `onReloadAccounts`, the command of the console. -/
def onReloadAccounts (m : AuctionManager) (accounts : Nat) : AuctionManager :=
  if m.stoppingClients.isEmpty = false ∨ m.reloadingAccounts = true then
    m
  else
    m.reloadAccounts accounts

/-- `onClientStopped`; the worker is deleted. -/
def onClientStopped (m : AuctionManager) (w : Nat) : AuctionManager :=
  let left : AuctionManager :=
    { m with stoppingClients := m.stoppingClients.erase w }
  if left.stoppingClients.isEmpty = true ∧ m.stopped = false then
    { left with accountReloadTimer := true }
  else
    left

/-- `onAccountReloadTimer` -/
def onAccountReloadTimer (m : AuctionManager) (accounts : Nat) :
    AuctionManager :=
  let expired : AuctionManager := { m with accountReloadTimer := false }
  { expired.loadAccounts accounts with reloadingAccounts := false }

/-- `AuctionManager::stop` -/
def stop (m : AuctionManager) : AuctionManager :=
  ({ m with stopped := true } : AuctionManager).stopClients

def new : AuctionManager where
  worker := fun _ => AuctionWorker.new
  created := 0
  clients := []
  stoppingClients := []
  pendingRequests := []
  stopped := true
  totalPages := 0
  currentCategory := 0
  reloadingAccounts := false
  accountReloadTimer := false
  calls := []
  answered := []
  endings := []

/-- `AuctionManager::start` of a new manager. -/
def start (accounts : Nat) : AuctionManager :=
  let loaded : AuctionManager :=
    { new.loadAccounts accounts with
      stopped := false
      pendingRequests := []
      totalPages := 1
      currentCategory := 0 }
  loaded.addRequest 0 1

/-!
## Steps
-/

/-- What can happen to the manager and its workers. -/
inductive Event where
  | searchResult (w : Nat) (totalPageCount : Int)
  | searchFailed (w : Nat)
  | delayTimer (w : Nat)
  | connected (w : Nat)
  | disconnected (w : Nat)
  | clientStopped (w : Nat)
  | reloadAccounts (accounts : Nat)
  | accountReloadTimer (accounts : Nat)
  | stop
deriving Repr, DecidableEq

def Enabled (m : AuctionManager) : Event -> Prop
  | .searchResult w _ => w ∈ m.workers
  | .searchFailed w => w ∈ m.workers
  | .delayTimer w =>
      w ∈ m.workers ∧ (m.worker w).auctionDelayTimer = true
  | .connected w => w ∈ m.workers ∧ (m.worker w).isConnected = false
  | .disconnected w => w ∈ m.workers ∧ (m.worker w).isConnected = true
  -- The callback runs when both sessions are closed, and the game session
  -- tells its worker of the disconnection before.
  | .clientStopped w =>
      w ∈ m.stoppingClients ∧ (m.worker w).isConnected = false
  | .reloadAccounts _ => True
  | .accountReloadTimer _ => m.accountReloadTimer = true
  | .stop => True

instance (m : AuctionManager) : DecidablePred m.Enabled := fun e =>
  match e with
  | .searchResult w _ => inferInstanceAs (Decidable (w ∈ m.workers))
  | .searchFailed w => inferInstanceAs (Decidable (w ∈ m.workers))
  | .delayTimer _ => inferInstanceAs (Decidable (_ ∧ _))
  | .connected _ => inferInstanceAs (Decidable (_ ∧ _))
  | .disconnected _ => inferInstanceAs (Decidable (_ ∧ _))
  | .clientStopped _ => inferInstanceAs (Decidable (_ ∧ _))
  | .reloadAccounts _ => inferInstanceAs (Decidable True)
  | .accountReloadTimer _ => inferInstanceAs (Decidable (_ = _))
  | .stop => inferInstanceAs (Decidable True)

def handle (m : AuctionManager) : Event -> AuctionManager
  | .searchResult w totalPageCount => m.onAuctionSearchResult w totalPageCount
  | .searchFailed w => m.onAuctionSearchFailed w
  | .delayTimer w => m.onDelayTimer w
  | .connected w => m.onConnected w
  | .disconnected w => m.onDisconnected w
  | .clientStopped w => m.onClientStopped w
  | .reloadAccounts accounts => m.onReloadAccounts accounts
  | .accountReloadTimer accounts => m.onAccountReloadTimer accounts
  | .stop => m.stop

def Step (m : AuctionManager) (e : Event) (m' : AuctionManager) : Prop :=
  m.Enabled e ∧ m' = m.handle e

theorem step_deterministic : Deterministic Step := by
  intro m e m' m'' h h'
  rw [h.right, h'.right]

def Runs (accounts : Nat) (history : List Event) (m : AuctionManager) : Prop :=
  Run Step (start accounts) history m

end AuctionManager

end Auction
end Rzu
