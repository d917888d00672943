import Mathlib.Data.List.Nodup

/-!
# Requests that wait for an answer

Askers send requests under a key, the answers carry what the wire made of the
key.  An answer is for the oldest request that the wire made the same of.
-/

namespace Rzu
namespace Library

/-- A request whose asker has left has nobody to tell. -/
structure Request (asker key : Type _) where
  asker : Option asker
  key : key
deriving DecidableEq

section Requests

variable {asker key message : Type _} [DecidableEq message]
variable (wire : key -> message)

def answered (requests : List (Request asker key)) (m : message) :
    Option (Request asker key) :=
  requests.find? fun request => wire request.key = m

variable {wire} {requests : List (Request asker key)} {m : message}
variable {request : Request asker key}

theorem answered_mem (h : answered wire requests m = some request) :
    request ∈ requests :=
  List.mem_of_find?_eq_some h

theorem answered_wire (h : answered wire requests m = some request) :
    wire request.key = m := by
  have hfound := List.find?_some h
  exact of_decide_eq_true hfound

theorem wire_ne_of_unanswered (h : answered wire requests m = none)
    (hmem : request ∈ requests) : wire request.key ≠ m := by
  have hnone := List.find?_eq_none.mp h request hmem
  intro heq
  exact hnone (decide_eq_true heq)

variable [DecidableEq asker] [DecidableEq key] (wire)

def answer (requests : List (Request asker key)) (m : message) :
    List (Request asker key) :=
  match answered wire requests m with
  | some request => requests.erase request
  | none => requests

variable {wire}

theorem answer_of_unanswered (h : answered wire requests m = none) :
    answer wire requests m = requests := by
  rw [answer, h]

theorem answer_nodup (hnodup : requests.Nodup) (m : message) :
    (answer wire requests m).Nodup := by
  rw [answer]
  split
  · exact hnodup.erase _
  · exact hnodup

theorem mem_answer (hnodup : requests.Nodup) {found : Request asker key}
    (h : answered wire requests m = some found) :
    request ∈ answer wire requests m ↔
      request ≠ found ∧ request ∈ requests := by
  rw [answer, h]
  exact hnodup.mem_erase_iff

end Requests

section Leave

variable {asker key : Type _} [DecidableEq asker]

/-- An asker leaves; its requests are answered all the same. -/
def leave (requests : List (Request asker key)) (o : asker) :
    List (Request asker key) :=
  requests.map fun request =>
    if request.asker = some o then { request with asker := none } else request

theorem leave_of_absent {requests : List (Request asker key)} {o : asker}
    (h : forall request, request ∈ requests -> request.asker ≠ some o) :
    leave requests o = requests := by
  rw [leave, List.map_congr_left fun request hmem => if_neg (h request hmem)]
  exact List.map_id' requests

end Leave

end Library
end Rzu
