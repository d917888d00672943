import Mathlib.Logic.Function.Basic

/-!
# References to database jobs

An owner keeps pointers to the jobs that it has started, so that they are
canceled when it goes.  A job is executed by a worker, is told in the main loop
when it is done, and is deleted then.
-/

namespace Rzu
namespace Database

/-- A job calls a member function or a lambda when it is done. -/
inductive JobKind where
  | callback
  | lambda
deriving DecidableEq

inductive JobStatus where
  | ok
  | canceled
  | error
deriving DecidableEq

/--
`session` is not null, and is only of a job with a member function;
`isCanceled` is only of a lambda.  The last two fields say that `onDone` has
been called, and to which reference the job belongs.
-/
structure DbQueryJob where
  kind : JobKind
  session : Bool
  isCanceled : Bool
  dbQueryJobRef : Option Nat
  canceled : Bool
  queued : Bool
  completed : Bool
  owner : Nat
deriving DecidableEq

structure DbQueryJobRef where
  dbQueryJobs : List Nat
  deleting : Bool
deriving DecidableEq

def DbQueryJobRef.inProgress (ref : DbQueryJobRef) : Bool :=
  !ref.dbQueryJobs.isEmpty

/--
The references and jobs that exist, by their addresses, and the job whose
`onDone` is running.  It is also recorded when callbacks have run, and whether
the reference existed then, and which jobs have completed uncanceled while
their reference existed.
-/
structure JobState where
  refs : Nat -> Option DbQueryJobRef
  jobs : Nat -> Option DbQueryJob
  nextRef : Nat
  nextJob : Nat
  current : Option Nat
  runs : Nat -> List Bool
  due : Nat -> Bool

namespace JobState

def initial : JobState where
  refs _ := none
  jobs _ := none
  nextRef := 0
  nextJob := 0
  current := none
  runs _ := []
  due _ := false

def setRef (s : JobState) (r : Nat) (ref : Option DbQueryJobRef) : JobState :=
  { s with refs := Function.update s.refs r ref }

def setJob (s : JobState) (j : Nat) (job : Option DbQueryJob) : JobState :=
  { s with jobs := Function.update s.jobs j job }

/-- Nothing is said of a pointer to what has been deleted. -/
def onQueryDone (s : JobState) (r j : Nat) : Option JobState :=
  match s.refs r with
  | none => none
  | some ref =>
      if ref.deleting then some s
      else some (s.setRef r
        (some { ref with dbQueryJobs := ref.dbQueryJobs.erase j }))

/-- `notifyDone`, if the job has a reference. -/
def notifyDone (s : JobState) (j : Nat) (job : DbQueryJob) : Option JobState :=
  match job.dbQueryJobRef with
  | none => some s
  | some r => s.onQueryDone r j

/-- What `cancel` does to the job itself. -/
def cancelJob (job : DbQueryJob) : DbQueryJob :=
  { job with
    session := match job.kind with
      | JobKind.callback => false
      | JobKind.lambda => job.session
    isCanceled := match job.kind with
      | JobKind.callback => job.isCanceled
      | JobKind.lambda => true
    dbQueryJobRef := none
    canceled := true }

def cancel (s : JobState) (j : Nat) : Option JobState :=
  match s.jobs j with
  | none => none
  | some job =>
      (s.notifyDone j job).map fun s => s.setJob j (some (cancelJob job))

def cancelAll (s : JobState) : List Nat -> Option JobState
  | [] => some s
  | j :: js => (s.cancel j).bind fun s => s.cancelAll js

def run (s : JobState) (j : Nat) (job : DbQueryJob) : JobState :=
  { s with
    runs := Function.update s.runs j
      (s.runs j ++ [(s.refs job.owner).isSome]) }

/-- Only a job with a member function tells its reference. -/
def onDone (s : JobState) (j : Nat) (job : DbQueryJob) (status : JobStatus) :
    Option JobState :=
  match job.kind with
  | JobKind.callback =>
      match job.dbQueryJobRef with
      | none => some s
      | some r => (s.onQueryDone r j).map fun s =>
          if status ≠ JobStatus.canceled ∧ job.session = true then s.run j job
          else s
  | JobKind.lambda =>
      if job.isCanceled then some s else some (s.run j job)

def newRef (s : JobState) : JobState :=
  { s.setRef s.nextRef (some ⟨[], false⟩) with nextRef := s.nextRef + 1 }

def newJob (kind : JobKind) (r : Nat) (bound : Bool) : DbQueryJob where
  kind := kind
  session := true
  isCanceled := false
  dbQueryJobRef := some r
  canceled := false
  queued := bound
  completed := false
  owner := r

/-- Without a binding, `execute` calls `onDone` at once and keeps the job. -/
def executeDbQuery (s : JobState) (r : Nat) (kind : JobKind) (bound : Bool) :
    Option JobState :=
  match s.refs r with
  | none => none
  | some ref =>
      let j := s.nextJob
      let job := newJob kind r bound
      let s := { (s.setJob j (some job)).setRef r (some { ref with
        dbQueryJobs := ref.dbQueryJobs ++ [j] }) with nextJob := j + 1 }
      if bound then some s
      else (s.onDone j job JobStatus.canceled).map fun s =>
        s.setJob j (some { job with
          completed := true
          dbQueryJobRef := match kind with
            | JobKind.callback => none
            | JobKind.lambda => some r })

/-- The jobs are told their new reference. -/
def moveAll (s : JobState) (r : Nat) : List Nat -> Option JobState
  | [] => some s
  | j :: js =>
      match s.jobs j with
      | none => none
      | some job => (s.setJob j (some { job with
          dbQueryJobRef := some r
          owner := r })).moveAll r js

/-- The constructor does not initialise `deleting` of the new reference. -/
def moveRef (s : JobState) (r : Nat) (deleting : Bool) : Option JobState :=
  match s.refs r with
  | none => none
  | some ref =>
      let new := s.nextRef
      ({ (s.setRef r (some { ref with dbQueryJobs := [] })).setRef new
        (some ⟨ref.dbQueryJobs, deleting⟩) with
          nextRef := new + 1 }).moveAll new ref.dbQueryJobs

def destroyRef (s : JobState) (r : Nat) : Option JobState :=
  match s.refs r with
  | none => none
  | some ref =>
      ((s.setRef r (some { ref with deleting := true })).cancelAll
        ref.dbQueryJobs).map fun s => s.setRef r none

/-- The main loop hears of a job; only one that was canceled may be so. -/
def complete (s : JobState) (j : Nat) (status : JobStatus) :
    Option JobState :=
  match s.current, s.jobs j with
  | none, some job =>
      if job.queued = true ∧ job.completed = false ∧
          (status = JobStatus.canceled -> job.canceled = true) then
        (s.onDone j job status).map fun s =>
          { s.setJob j (some { job with completed := true }) with
            current := some j
            due := Function.update s.due j
              (decide (status ≠ JobStatus.canceled) &&
                (s.refs job.owner).isSome) }
      else none
  | _, _ => none

/-- `onDone` comes back, and the job is deleted. -/
def finish (s : JobState) : Option JobState :=
  match s.current with
  | none => none
  | some j => some { s.setJob j none with current := none }

/-- What the program and the workers do, also while a callback runs. -/
inductive JobEvent where
  | newRef
  | executeDbQuery (r : Nat) (kind : JobKind) (bound : Bool)
  | moveRef (r : Nat) (deleting : Bool)
  | destroyRef (r : Nat)
  | complete (j : Nat) (status : JobStatus)
  | finish
deriving DecidableEq

def handle (s : JobState) : JobEvent -> Option JobState
  | JobEvent.newRef => some s.newRef
  | JobEvent.executeDbQuery r kind bound => s.executeDbQuery r kind bound
  | JobEvent.moveRef r deleting => s.moveRef r deleting
  | JobEvent.destroyRef r => s.destroyRef r
  | JobEvent.complete j status => s.complete j status
  | JobEvent.finish => s.finish

end JobState

end Database
end Rzu
