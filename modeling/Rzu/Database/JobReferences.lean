import Rzu.Library.Run
import Rzu.Database.DbQueryJobRef

/-!
# What the references know of their jobs

A job with a member function leaves the list of its reference when it is done,
and a lambda stays in it.  The lists are right in every run in which no lambda
completes before its reference goes, and no job completes in a reference that
a move has left with `deleting` set.
-/

namespace Rzu
namespace Database

open Library

namespace JobState

def Step (s : JobState) (e : JobEvent) (s' : JobState) : Prop :=
  s.handle e = some s'

theorem step_deterministic : Deterministic Step := by
  intro s e s' s'' h h'
  exact Option.some.inj (h.symm.trans h')

/-- A job that exists, and of which `onDone` has not been called. -/
def Pending (s : JobState) (j : Nat) (job : DbQueryJob) : Prop :=
  s.jobs j = some job ∧ job.completed = false

/--
Every pointer in a list is one to a job that is pending, and a reference whose
list is not empty is one that has such a job.  The destructor meets no deleted
object.  A callback runs at most once and while the reference exists, and if
the job completes then without having been canceled, it does run.
-/
structure Tracks (s : JobState) : Prop where
  live : forall r ref j, s.refs r = some ref -> j ∈ ref.dbQueryJobs ->
    exists job, s.Pending j job
  inProgress : forall r ref, s.refs r = some ref ->
    (ref.inProgress = true ↔
      exists j job, s.Pending j job ∧ job.owner = r)
  destructor : forall r ref, s.refs r = some ref ->
    exists s', s.destroyRef r = some s'
  once : forall j, s.runs j = [] ∨ s.runs j = [true]
  due : forall j, s.due j = true -> s.runs j = [true]

/-- `onQueryDone` is not called for a lambda, or does nothing. -/
def Stays (ref : DbQueryJobRef) (kind : JobKind) : Prop :=
  kind = JobKind.lambda ∨ ref.deleting = true

/-- A job of an existing reference completes and stays in the list. -/
def Leaves (s : JobState) : JobEvent -> Prop
  | JobEvent.complete j _ =>
      exists r ref job, s.refs r = some ref ∧ j ∈ ref.dbQueryJobs ∧
        s.jobs j = some job ∧ Stays ref job.kind
  | JobEvent.executeDbQuery r kind bound =>
      bound = false ∧ exists ref, s.refs r = some ref ∧ Stays ref kind
  | _ => False

/-! ## Jobs that stay -/

section Staying

variable {s s' : JobState} {r : Nat} {ref : DbQueryJobRef}

theorem not_tracks_of_completed {j : Nat} {job : DbQueryJob}
    (href : s.refs r = some ref) (hmem : j ∈ ref.dbQueryJobs)
    (hjob : s.jobs j = some job) (hcompleted : job.completed = true) :
    ¬s.Tracks := by
  intro htracks
  rcases htracks.live r ref j href hmem with ⟨job', hjob', hpending⟩
  cases hjob.symm.trans hjob'
  rw [hcompleted] at hpending
  cases hpending

theorem onQueryDone_stays {r' j : Nat} (href : s.refs r = some ref)
    (hdeleting : ref.deleting = true) (h : s.onQueryDone r' j = some s') :
    s'.refs r = some ref := by
  unfold onQueryDone at h
  by_cases hsame : r' = r
  · subst hsame
    rw [href] at h
    simp only [hdeleting, ↓reduceIte, Option.some.injEq] at h
    rw [← h]
    exact href
  · cases hother : s.refs r' with
    | none =>
        rw [hother] at h
        cases h
    | some ref' =>
        rw [hother] at h
        simp only at h
        split at h
        · rw [← Option.some.inj h]
          exact href
        · rw [← Option.some.inj h]
          simp only [setRef]
          rw [Function.update_of_ne (Ne.symm hsame)]
          exact href

theorem onDone_stays {j : Nat} {job : DbQueryJob} {status : JobStatus}
    (href : s.refs r = some ref) (hstays : Stays ref job.kind)
    (h : s.onDone j job status = some s') :
    s'.refs r = some ref := by
  unfold onDone at h
  split at h
  · rename_i hkind
    have hdeleting : ref.deleting = true := by
      rcases hstays with hlambda | hdeleting
      · rw [hkind] at hlambda
        cases hlambda
      · exact hdeleting
    split at h
    · rw [← Option.some.inj h]
      exact href
    · rcases Option.map_eq_some_iff.mp h with ⟨after, hdone, hafter⟩
      have hkept := onQueryDone_stays href hdeleting hdone
      rw [← hafter]
      split
      · exact hkept
      · exact hkept
  · split at h
    · rw [← Option.some.inj h]
      exact href
    · rw [← Option.some.inj h]
      exact href

theorem complete_cases {j : Nat} {status : JobStatus}
    (h : s.complete j status = some s') :
    exists job after, s.current = none ∧ s.Pending j job ∧
      job.queued = true ∧
      (status = JobStatus.canceled -> job.canceled = true) ∧
      s.onDone j job status = some after ∧
      s' = { after.setJob j (some { job with completed := true }) with
        current := some j
        due := Function.update after.due j
          (decide (status ≠ JobStatus.canceled) &&
            (after.refs job.owner).isSome) } := by
  unfold complete at h
  cases hcurrent : s.current with
  | some _ =>
      rw [hcurrent] at h
      cases h
  | none =>
      cases hjob : s.jobs j with
      | none =>
          rw [hcurrent, hjob] at h
          cases h
      | some job =>
          rw [hcurrent, hjob] at h
          simp only at h
          split at h
          · rename_i hallowed
            rcases Option.map_eq_some_iff.mp h with ⟨after, hdone, hafter⟩
            exact ⟨job, after, rfl, ⟨hjob, hallowed.right.left⟩,
              hallowed.left, hallowed.right.right, hdone, hafter.symm⟩
          · cases h

theorem complete_not_tracks {j : Nat} {status : JobStatus}
    {job : DbQueryJob} (href : s.refs r = some ref)
    (hmem : j ∈ ref.dbQueryJobs) (hjob : s.jobs j = some job)
    (hstays : Stays ref job.kind) (h : s.complete j status = some s') :
    ¬s'.Tracks := by
  rcases complete_cases h with
    ⟨job', after, -, ⟨hjob', -⟩, -, -, hdone, rfl⟩
  cases hjob.symm.trans hjob'
  have hkept := onDone_stays href hstays hdone
  exact not_tracks_of_completed hkept hmem (Function.update_self _ _ _) rfl

/-- The state in which a new job of the reference is executed. -/
def withJob (s : JobState) (r : Nat) (ref : DbQueryJobRef) (kind : JobKind)
    (bound : Bool) : JobState :=
  { (s.setJob s.nextJob (some (newJob kind r bound))).setRef r (some { ref with
    dbQueryJobs := ref.dbQueryJobs ++ [s.nextJob] }) with
      nextJob := s.nextJob + 1 }

theorem executeDbQuery_bound {kind : JobKind} (href : s.refs r = some ref) :
    s.executeDbQuery r kind true = some (s.withJob r ref kind true) := by
  unfold executeDbQuery
  rw [href]
  rfl

theorem executeDbQuery_unbound {kind : JobKind} (href : s.refs r = some ref) :
    s.executeDbQuery r kind false =
      ((s.withJob r ref kind false).onDone s.nextJob (newJob kind r false)
        JobStatus.canceled).map fun s' =>
          s'.setJob s.nextJob (some { newJob kind r false with
            completed := true
            dbQueryJobRef := match kind with
              | JobKind.callback => none
              | JobKind.lambda => some r }) := by
  unfold executeDbQuery
  rw [href]
  rfl

theorem executeDbQuery_not_tracks {kind : JobKind}
    (href : s.refs r = some ref) (hstays : Stays ref kind)
    (h : s.executeDbQuery r kind false = some s') : ¬s'.Tracks := by
  rw [executeDbQuery_unbound href] at h
  rcases Option.map_eq_some_iff.mp h with ⟨after, hdone, hafter⟩
  rw [← hafter]
  have hheld : (s.withJob r ref kind false).refs r = some { ref with
      dbQueryJobs := ref.dbQueryJobs ++ [s.nextJob] } :=
    Function.update_self _ _ _
  have hstays' : Stays { ref with
      dbQueryJobs := ref.dbQueryJobs ++ [s.nextJob] }
        (newJob kind r false).kind := hstays
  have hkept := onDone_stays hheld hstays' hdone
  exact not_tracks_of_completed hkept (by simp) (Function.update_self _ _ _)
    rfl

theorem step_leaves {e : JobEvent} (hstep : Step s e s')
    (hleaves : s.Leaves e) : ¬s'.Tracks := by
  cases e with
  | complete j status =>
      rcases hleaves with ⟨r, ref, job, href, hmem, hjob, hstays⟩
      exact complete_not_tracks href hmem hjob hstays hstep
  | executeDbQuery r kind bound =>
      rcases hleaves with ⟨rfl, ref, href, hstays⟩
      exact executeDbQuery_not_tracks href hstays hstep
  | newRef => exact hleaves.elim
  | moveRef r deleting => exact hleaves.elim
  | destroyRef r => exact hleaves.elim
  | finish => exact hleaves.elim

end Staying

/-! ## Jobs that are told something in a row -/

section Changes

variable {s : JobState} {f : DbQueryJob -> DbQueryJob}

def changeJobs (s : JobState) (js : List Nat)
    (f : DbQueryJob -> DbQueryJob) : JobState :=
  { s with jobs := fun j => if j ∈ js then (s.jobs j).map f else s.jobs j }

theorem changeJobs_nil (s : JobState) (f : DbQueryJob -> DbQueryJob) :
    s.changeJobs [] f = s := by
  simp [changeJobs]

theorem setJob_changeJobs {j : Nat} {job : DbQueryJob} {js : List Nat}
    (hjob : s.jobs j = some job) (hnot : j ∉ js) :
    (s.setJob j (some (f job))).changeJobs js f = s.changeJobs (j :: js) f := by
  unfold changeJobs setJob
  congr 1
  funext k
  by_cases hsame : k = j
  · subst hsame
    simp only [hnot, ↓reduceIte, Function.update_self, List.mem_cons,
      true_or, hjob, Option.map_some]
  · simp only [Function.update_of_ne hsame, List.mem_cons, hsame, false_or]

theorem setJob_other {j k : Nat} {job : Option DbQueryJob} (hne : k ≠ j) :
    (s.setJob j job).jobs k = s.jobs k :=
  Function.update_of_ne hne _ _

theorem cancelAll_eq {r : Nat} {ref : DbQueryJobRef}
    (hdeleting : ref.deleting = true) {js : List Nat} {s : JobState}
    (href : s.refs r = some ref) (hnodup : js.Nodup)
    (hjobs : forall j, j ∈ js ->
      exists job, s.jobs j = some job ∧ job.dbQueryJobRef = some r) :
    s.cancelAll js = some (s.changeJobs js cancelJob) := by
  induction js generalizing s with
  | nil =>
      rw [changeJobs_nil]
      rfl
  | cons j js ih =>
      rcases List.nodup_cons.mp hnodup with ⟨hnot, hrest⟩
      rcases hjobs j List.mem_cons_self with ⟨job, hjob, howner⟩
      have hcancel : s.cancel j = some (s.setJob j (some (cancelJob job))) := by
        simp only [cancel, hjob, notifyDone, howner, onQueryDone, href,
          hdeleting, ↓reduceIte, Option.map_some]
      have hafter := ih (s := s.setJob j (some (cancelJob job))) href hrest (by
        intro k hk
        rw [setJob_other (ne_of_mem_of_not_mem hk hnot)]
        exact hjobs k (List.mem_cons_of_mem _ hk))
      rw [cancelAll, hcancel, Option.bind_some, hafter,
        setJob_changeJobs hjob hnot]

def told (r : Nat) (job : DbQueryJob) : DbQueryJob :=
  { job with
    dbQueryJobRef := some r
    owner := r }

theorem told_completed (r : Nat) (job : DbQueryJob) :
    (told r job).completed = job.completed :=
  rfl

theorem cancelJob_completed (job : DbQueryJob) :
    (cancelJob job).completed = job.completed :=
  rfl

theorem moveAll_eq {r : Nat} {js : List Nat} {s : JobState}
    (hnodup : js.Nodup)
    (hjobs : forall j, j ∈ js -> exists job, s.jobs j = some job) :
    s.moveAll r js = some (s.changeJobs js (told r)) := by
  induction js generalizing s with
  | nil =>
      rw [changeJobs_nil]
      rfl
  | cons j js ih =>
      rcases List.nodup_cons.mp hnodup with ⟨hnot, hrest⟩
      rcases hjobs j List.mem_cons_self with ⟨job, hjob⟩
      have hafter := ih (s := s.setJob j (some (told r job))) hrest (by
        intro k hk
        rw [setJob_other (ne_of_mem_of_not_mem hk hnot)]
        exact hjobs k (List.mem_cons_of_mem _ hk))
      rw [moveAll, hjob]
      exact hafter.trans (congrArg some (setJob_changeJobs hjob hnot))

end Changes

/-! ## Who holds which job -/

/-- A job of the reference that has not been canceled. -/
structure Waiting (r : Nat) (job : DbQueryJob) : Prop where
  pending : job.completed = false
  session : job.session = true
  isCanceled : job.isCanceled = false
  reference : job.dbQueryJobRef = some r
  canceled : job.canceled = false
  owner : job.owner = r

/-- A job whose reference has gone. -/
structure Dropped (s : JobState) (job : DbQueryJob) : Prop where
  gone : s.refs job.owner = none
  reference : job.dbQueryJobRef = none
  canceled : job.kind = JobKind.lambda -> job.isCanceled = true

/-- A reference has each of its jobs in its list, and no other ones. -/
structure Custody (s : JobState) : Prop where
  held : forall r ref j, s.refs r = some ref -> j ∈ ref.dbQueryJobs ->
    exists job, s.jobs j = some job ∧ Waiting r job
  nodup : forall r ref, s.refs r = some ref -> ref.dbQueryJobs.Nodup
  holder : forall j job, s.Pending j job ->
    (exists ref, s.refs job.owner = some ref ∧ j ∈ ref.dbQueryJobs) ∨
      s.Dropped job
  owner : forall j job, s.Pending j job -> job.owner < s.nextRef
  freshRef : forall r, s.nextRef ≤ r -> s.refs r = none
  freshJob : forall j, s.nextJob ≤ j -> s.jobs j = none
  current : forall j, s.current = some j ->
    exists job, s.jobs j = some job ∧ job.completed = true

/-- Of a job that is pending or not yet there, nothing is recorded. -/
structure Accounts (s : JobState) : Prop where
  pending : forall j job, s.Pending j job -> s.runs j = [] ∧ s.due j = false
  fresh : forall j, s.nextJob ≤ j -> s.runs j = [] ∧ s.due j = false
  settled : forall j,
    (s.runs j = [] ∧ s.due j = false) ∨ s.runs j = [true]

structure Consistent (s : JobState) : Prop where
  custody : s.Custody
  accounts : s.Accounts

theorem consistent_initial : Consistent initial where
  custody :=
    { held := by
        intro r ref j href
        cases href
      nodup := by
        intro r ref href
        cases href
      holder := by
        intro j job hjob
        cases hjob.left
      owner := by
        intro j job hjob
        cases hjob.left
      freshRef := by
        intro r hr
        rfl
      freshJob := by
        intro j hj
        rfl
      current := by
        intro j hj
        cases hj }
  accounts :=
    { pending := by
        intro j job hjob
        cases hjob.left
      fresh := by
        intro j hj
        exact ⟨rfl, rfl⟩
      settled := by
        intro j
        exact Or.inl ⟨rfl, rfl⟩ }

section Destroying

variable {s : JobState} {r : Nat} {ref : DbQueryJobRef}

theorem destroyRef_eq (h : s.Custody) (href : s.refs r = some ref) :
    s.destroyRef r =
      some ((s.setRef r none).changeJobs ref.dbQueryJobs cancelJob) := by
  have hdeleting : (s.setRef r (some { ref with deleting := true })).refs r =
      some { ref with deleting := true } :=
    Function.update_self _ _ _
  have hcancel := cancelAll_eq rfl hdeleting (h.nodup r ref href) (by
    intro j hj
    rcases h.held r ref j href hj with ⟨job, hjob, hwaiting⟩
    exact ⟨job, hjob, hwaiting.reference⟩)
  unfold destroyRef
  rw [href]
  simp only
  rw [hcancel, Option.map_some]
  simp [setRef, changeJobs]

theorem moveRef_eq (h : s.Custody) (href : s.refs r = some ref)
    (deleting : Bool) :
    s.moveRef r deleting =
      some (({ (s.setRef r (some { ref with dbQueryJobs := [] })).setRef
        s.nextRef (some ⟨ref.dbQueryJobs, deleting⟩) with
          nextRef := s.nextRef + 1 } : JobState).changeJobs ref.dbQueryJobs
            (told s.nextRef)) := by
  unfold moveRef
  rw [href]
  apply moveAll_eq (h.nodup r ref href)
  intro j hj
  rcases h.held r ref j href hj with ⟨job, hjob, -⟩
  exact ⟨job, hjob⟩

end Destroying

theorem Consistent.tracks {s : JobState} (h : s.Consistent) : s.Tracks where
  live := by
    intro r ref j href hj
    rcases h.custody.held r ref j href hj with ⟨job, hjob, hwaiting⟩
    exact ⟨job, hjob, hwaiting.pending⟩
  inProgress := by
    intro r ref href
    unfold DbQueryJobRef.inProgress
    rw [Bool.not_eq_true', List.isEmpty_eq_false_iff_exists_mem]
    constructor
    · rintro ⟨j, hj⟩
      rcases h.custody.held r ref j href hj with ⟨job, hjob, hwaiting⟩
      exact ⟨j, job, ⟨hjob, hwaiting.pending⟩, hwaiting.owner⟩
    · rintro ⟨j, job, hpending, rfl⟩
      rcases h.custody.holder j job hpending with ⟨ref', href', hj⟩ | hdropped
      · cases href.symm.trans href'
        exact ⟨j, hj⟩
      · rw [hdropped.gone] at href
        cases href
  destructor := by
    intro r ref href
    exact ⟨_, destroyRef_eq h.custody href⟩
  once := by
    intro j
    rcases h.accounts.settled j with ⟨hruns, -⟩ | hruns
    · exact Or.inl hruns
    · exact Or.inr hruns
  due := by
    intro j hdue
    rcases h.accounts.settled j with ⟨-, hdue'⟩ | hruns
    · rw [hdue] at hdue'
      cases hdue'
    · exact hruns

/-! ## What the steps preserve -/

section Keeping

variable {s s' : JobState} {r : Nat} {ref : DbQueryJobRef}

namespace Custody

variable (h : s.Custody)
include h

theorem job_lt {j : Nat} {job : DbQueryJob} (hjob : s.jobs j = some job) :
    j < s.nextJob := by
  by_contra hle
  rw [h.freshJob j (by omega)] at hjob
  cases hjob

theorem ref_lt (href : s.refs r = some ref) : r < s.nextRef := by
  by_contra hle
  rw [h.freshRef r (by omega)] at href
  cases href

theorem held_lt {j : Nat} (href : s.refs r = some ref)
    (hj : j ∈ ref.dbQueryJobs) : j < s.nextJob := by
  rcases h.held r ref j href hj with ⟨job, hjob, -⟩
  exact h.job_lt hjob

theorem held_once {r' j : Nat} {ref' : DbQueryJobRef}
    (href : s.refs r = some ref) (hj : j ∈ ref.dbQueryJobs)
    (href' : s.refs r' = some ref') (hj' : j ∈ ref'.dbQueryJobs) :
    r' = r := by
  rcases h.held r ref j href hj with ⟨job, hjob, hwaiting⟩
  rcases h.held r' ref' j href' hj' with ⟨job', hjob', hwaiting'⟩
  cases hjob.symm.trans hjob'
  exact hwaiting'.owner.symm.trans hwaiting.owner

theorem held_by_owner {j : Nat} {job : DbQueryJob}
    (href : s.refs r = some ref) (hpending : s.Pending j job)
    (howner : job.owner = r) : j ∈ ref.dbQueryJobs := by
  rcases h.holder j job hpending with ⟨ref', href', hj⟩ | hdropped
  · rw [howner] at href'
    cases href.symm.trans href'
    exact hj
  · have hgone := hdropped.gone
    rw [howner, href] at hgone
    cases hgone

end Custody

theorem Accounts.frame (h : s.Accounts) (hruns : s'.runs = s.runs)
    (hdue : s'.due = s.due) (hnext : s.nextJob ≤ s'.nextJob)
    (hjobs : forall j job, s'.Pending j job ->
      (exists job', s.Pending j job') ∨ s.nextJob ≤ j) : s'.Accounts where
  pending := by
    intro j job hpending
    rw [hruns, hdue]
    rcases hjobs j job hpending with ⟨job', hpending'⟩ | hfresh
    · exact h.pending j job' hpending'
    · exact h.fresh j hfresh
  fresh := by
    intro j hj
    rw [hruns, hdue]
    exact h.fresh j (Nat.le_trans hnext hj)
  settled := by
    intro j
    rw [hruns, hdue]
    exact h.settled j

theorem newRef_custody (h : s.Custody) : s.newRef.Custody where
  held := by
    intro r ref j href hj
    by_cases hnew : r = s.nextRef
    · subst hnew
      have hempty : ref = ⟨[], false⟩ := by
        simpa [newRef, setRef] using href.symm
      rw [hempty] at hj
      cases hj
    · have hold : s.refs r = some ref := by
        simpa [newRef, setRef, hnew] using href
      exact h.held r ref j hold hj
  nodup := by
    intro r ref href
    by_cases hnew : r = s.nextRef
    · subst hnew
      have hempty : ref = ⟨[], false⟩ := by
        simpa [newRef, setRef] using href.symm
      rw [hempty]
      exact List.nodup_nil
    · have hold : s.refs r = some ref := by
        simpa [newRef, setRef, hnew] using href
      exact h.nodup r ref hold
  holder := by
    intro j job hpending
    have hne : job.owner ≠ s.nextRef := Nat.ne_of_lt (h.owner j job hpending)
    have hsame : s.newRef.refs job.owner = s.refs job.owner :=
      Function.update_of_ne hne _ _
    rcases h.holder j job hpending with ⟨ref, href, hj⟩ | hdropped
    · exact Or.inl ⟨ref, hsame.trans href, hj⟩
    · exact Or.inr { hdropped with gone := hsame.trans hdropped.gone }
  owner := by
    intro j job hpending
    exact Nat.lt_succ_of_lt (h.owner j job hpending)
  freshRef := by
    intro r hr
    have hle : s.nextRef + 1 ≤ r := hr
    have hne : r ≠ s.nextRef := by omega
    exact (Function.update_of_ne hne _ _).trans (h.freshRef r (by omega))
  freshJob := h.freshJob
  current := h.current

theorem newRef_consistent (h : s.Consistent) : s.newRef.Consistent where
  custody := newRef_custody h.custody
  accounts := h.accounts.frame rfl rfl (Nat.le_refl _) (by
    intro j job hpending
    exact Or.inl ⟨job, hpending⟩)

/-! ### A new job -/

theorem withJob_refs_other {kind : JobKind} {bound : Bool} {r' : Nat}
    (hne : r' ≠ r) : (s.withJob r ref kind bound).refs r' = s.refs r' :=
  Function.update_of_ne hne _ _

theorem withJob_jobs_other {kind : JobKind} {bound : Bool} {j : Nat}
    (hne : j ≠ s.nextJob) : (s.withJob r ref kind bound).jobs j = s.jobs j :=
  Function.update_of_ne hne _ _

theorem withJob_ref {kind : JobKind} {bound : Bool} :
    (s.withJob r ref kind bound).refs r = some { ref with
      dbQueryJobs := ref.dbQueryJobs ++ [s.nextJob] } :=
  Function.update_self _ _ _

theorem withJob_job {kind : JobKind} {bound : Bool} :
    (s.withJob r ref kind bound).jobs s.nextJob =
      some (newJob kind r bound) :=
  Function.update_self _ _ _

theorem newJob_waiting (kind : JobKind) (r : Nat) (bound : Bool) :
    Waiting r (newJob kind r bound) :=
  ⟨rfl, rfl, rfl, rfl, rfl, rfl⟩

theorem withJob_custody {kind : JobKind} {bound : Bool} (h : s.Custody)
    (href : s.refs r = some ref) : (s.withJob r ref kind bound).Custody where
  held := by
    intro r' ref' j href' hj
    by_cases hsame : r' = r
    · subst hsame
      cases withJob_ref.symm.trans href'
      rcases List.mem_append.mp hj with hold | hnew
      · have hne : j ≠ s.nextJob := Nat.ne_of_lt (h.held_lt href hold)
        rw [withJob_jobs_other hne]
        exact h.held r' ref j href hold
      · rw [List.mem_singleton.mp hnew]
        exact ⟨_, withJob_job, newJob_waiting kind r' bound⟩
    · rw [withJob_refs_other hsame] at href'
      have hne : j ≠ s.nextJob := Nat.ne_of_lt (h.held_lt href' hj)
      rw [withJob_jobs_other hne]
      exact h.held r' ref' j href' hj
  nodup := by
    intro r' ref' href'
    by_cases hsame : r' = r
    · subst hsame
      cases withJob_ref.symm.trans href'
      refine List.nodup_append.mpr
        ⟨h.nodup r' ref href, List.pairwise_singleton _ _, ?_⟩
      intro j hold k hnew
      rw [List.mem_singleton.mp hnew]
      exact Nat.ne_of_lt (h.held_lt href hold)
    · rw [withJob_refs_other hsame] at href'
      exact h.nodup r' ref' href'
  holder := by
    intro j job hpending
    by_cases hnew : j = s.nextJob
    · subst hnew
      cases withJob_job.symm.trans hpending.left
      exact Or.inl ⟨_, withJob_ref, by simp⟩
    · have hold : s.Pending j job :=
        ⟨(withJob_jobs_other hnew).symm.trans hpending.left, hpending.right⟩
      by_cases howner : job.owner = r
      · have hj := h.held_by_owner href hold howner
        rw [howner]
        exact Or.inl ⟨_, withJob_ref, List.mem_append_left _ hj⟩
      · rcases h.holder j job hold with ⟨ref', href', hj⟩ | hdropped
        · exact Or.inl ⟨ref', (withJob_refs_other howner).trans href', hj⟩
        · exact Or.inr { hdropped with
            gone := (withJob_refs_other howner).trans hdropped.gone }
  owner := by
    intro j job hpending
    by_cases hnew : j = s.nextJob
    · subst hnew
      cases withJob_job.symm.trans hpending.left
      exact h.ref_lt href
    · exact h.owner j job
        ⟨(withJob_jobs_other hnew).symm.trans hpending.left, hpending.right⟩
  freshRef := by
    intro r' hr'
    have hlt := h.ref_lt href
    have hle : s.nextRef ≤ r' := hr'
    rw [withJob_refs_other (by omega)]
    exact h.freshRef r' hr'
  freshJob := by
    intro j hj
    have hle : s.nextJob + 1 ≤ j := hj
    rw [withJob_jobs_other (by omega)]
    exact h.freshJob j (by omega)
  current := by
    intro j hj
    rcases h.current j hj with ⟨job, hjob, hcompleted⟩
    refine ⟨job, ?_, hcompleted⟩
    rw [withJob_jobs_other (Nat.ne_of_lt (h.job_lt hjob))]
    exact hjob

theorem withJob_consistent {kind : JobKind} {bound : Bool}
    (h : s.Consistent) (href : s.refs r = some ref) :
    (s.withJob r ref kind bound).Consistent where
  custody := withJob_custody h.custody href
  accounts := h.accounts.frame rfl rfl (Nat.le_succ _) (by
    intro j job hpending
    by_cases hnew : j = s.nextJob
    · exact Or.inr (Nat.le_of_eq hnew.symm)
    · exact Or.inl ⟨job, (withJob_jobs_other hnew).symm.trans hpending.left,
        hpending.right⟩)

/-- A job that was not executed is told so, and nobody deletes it. -/
def failed (r : Nat) : DbQueryJob :=
  { newJob JobKind.callback r false with
    completed := true
    dbQueryJobRef := none }

theorem executeDbQuery_failed (h : s.Custody) (href : s.refs r = some ref)
    (hdeleting : ref.deleting = false) :
    s.executeDbQuery r JobKind.callback false =
      some { s.setJob s.nextJob (some (failed r)) with
        nextJob := s.nextJob + 1 } := by
  have hnot : s.nextJob ∉ ref.dbQueryJobs :=
    fun hj => Nat.lt_irrefl _ (h.held_lt href hj)
  have herase : (ref.dbQueryJobs ++ [s.nextJob]).erase s.nextJob =
      ref.dbQueryJobs := by
    rw [List.erase_append_right _ hnot]
    simp
  rw [executeDbQuery_unbound href]
  simp only [onDone, newJob, onQueryDone, withJob_ref, hdeleting,
    Bool.false_eq_true, ↓reduceIte, herase, Option.map_some]
  simp [withJob, setRef, setJob, failed, newJob, ← hdeleting, ← href]

theorem failed_consistent (h : s.Consistent) :
    Consistent { s.setJob s.nextJob (some (failed r)) with
      nextJob := s.nextJob + 1 } := by
  have hother : forall j, j ≠ s.nextJob ->
      (s.setJob s.nextJob (some (failed r))).jobs j = s.jobs j :=
    fun j hne => setJob_other hne
  have hpending : forall j job,
      (s.setJob s.nextJob (some (failed r))).Pending j job ->
        s.Pending j job := by
    intro j job hpending
    by_cases hnew : j = s.nextJob
    · subst hnew
      cases (Function.update_self _ _ _).symm.trans hpending.left
      cases hpending.right
    · exact ⟨(hother j hnew).symm.trans hpending.left, hpending.right⟩
  refine ⟨?_, ?_⟩
  · exact
      { held := by
          intro r' ref' j href hj
          rcases h.custody.held r' ref' j href hj with ⟨job, hjob, hwaiting⟩
          exact ⟨job, (hother j (Nat.ne_of_lt (h.custody.job_lt hjob))).trans
            hjob, hwaiting⟩
        nodup := h.custody.nodup
        holder := by
          intro j job hafter
          rcases h.custody.holder j job (hpending j job hafter)
            with hheld | hdropped
          · exact Or.inl hheld
          · exact Or.inr { hdropped with }
        owner := by
          intro j job hafter
          exact h.custody.owner j job (hpending j job hafter)
        freshRef := h.custody.freshRef
        freshJob := by
          intro j hj
          have hle : s.nextJob + 1 ≤ j := hj
          exact (hother j (by omega)).trans (h.custody.freshJob j (by omega))
        current := by
          intro j hj
          rcases h.custody.current j hj with ⟨job, hjob, hcompleted⟩
          exact ⟨job, (hother j (Nat.ne_of_lt (h.custody.job_lt hjob))).trans
            hjob, hcompleted⟩ }
  · exact h.accounts.frame rfl rfl (Nat.le_succ _) (by
      intro j job hafter
      exact Or.inl ⟨job, hpending j job hafter⟩)

theorem executeDbQuery_consistent {kind : JobKind} {bound : Bool}
    (h : s.Consistent) (hstep : s.executeDbQuery r kind bound = some s')
    (hgood : ¬s.Leaves (JobEvent.executeDbQuery r kind bound)) :
    s'.Consistent := by
  cases href : s.refs r with
  | none =>
      unfold executeDbQuery at hstep
      rw [href] at hstep
      cases hstep
  | some ref =>
      cases bound with
      | true =>
          rw [executeDbQuery_bound href] at hstep
          rw [← Option.some.inj hstep]
          exact withJob_consistent h href
      | false =>
          have hstays : ¬Stays ref kind :=
            fun hstays => hgood ⟨rfl, ref, href, hstays⟩
          cases kind with
          | lambda => exact (hstays (Or.inl rfl)).elim
          | callback =>
              have hdeleting : ref.deleting = false := by
                cases hd : ref.deleting with
                | true => exact (hstays (Or.inr hd)).elim
                | false => rfl
              rw [executeDbQuery_failed h.custody href hdeleting] at hstep
              rw [← Option.some.inj hstep]
              exact failed_consistent h

/-! ### References that move and go -/

def withMoved (s : JobState) (r : Nat) (ref : DbQueryJobRef)
    (deleting : Bool) : JobState :=
  ({ (s.setRef r (some { ref with dbQueryJobs := [] })).setRef
    s.nextRef (some ⟨ref.dbQueryJobs, deleting⟩) with
      nextRef := s.nextRef + 1 } : JobState).changeJobs ref.dbQueryJobs
        (told s.nextRef)

theorem withMoved_refs_other {deleting : Bool} {r' : Nat} (hne : r' ≠ r)
    (hold : r' ≠ s.nextRef) :
    (s.withMoved r ref deleting).refs r' = s.refs r' :=
  (Function.update_of_ne hold _ _).trans (Function.update_of_ne hne _ _)

theorem withMoved_new {deleting : Bool} :
    (s.withMoved r ref deleting).refs s.nextRef =
      some ⟨ref.dbQueryJobs, deleting⟩ :=
  Function.update_self _ _ _

theorem withMoved_old {deleting : Bool} (hlt : r < s.nextRef) :
    (s.withMoved r ref deleting).refs r =
      some { ref with dbQueryJobs := [] } :=
  (Function.update_of_ne (Nat.ne_of_lt hlt) _ _).trans
    (Function.update_self _ _ _)

theorem changeJobs_mem {js : List Nat} {f : DbQueryJob -> DbQueryJob} {j : Nat}
    (hj : j ∈ js) : (s.changeJobs js f).jobs j = (s.jobs j).map f :=
  if_pos hj

theorem changeJobs_not_mem {js : List Nat} {f : DbQueryJob -> DbQueryJob}
    {j : Nat} (hj : j ∉ js) : (s.changeJobs js f).jobs j = s.jobs j :=
  if_neg hj

theorem pending_of_changeJobs {js : List Nat} {f : DbQueryJob -> DbQueryJob}
    (hf : forall job, (f job).completed = job.completed) {j : Nat}
    {job : DbQueryJob} (h : (s.changeJobs js f).Pending j job) :
    exists job', s.Pending j job' ∧
      (j ∈ js ∧ job = f job' ∨ j ∉ js ∧ job = job') := by
  by_cases hj : j ∈ js
  · have hchanged := (changeJobs_mem hj).symm.trans h.left
    rcases Option.map_eq_some_iff.mp hchanged with ⟨job', hjob', heq⟩
    refine ⟨job', ⟨hjob', ?_⟩, Or.inl ⟨hj, heq.symm⟩⟩
    rw [← hf job', heq]
    exact h.right
  · have hsame := (changeJobs_not_mem hj).symm.trans h.left
    exact ⟨job, ⟨hsame, h.right⟩, Or.inr ⟨hj, rfl⟩⟩

theorem changeJobs_current {js : List Nat} {f : DbQueryJob -> DbQueryJob}
    (hf : forall job, (f job).completed = job.completed) {j : Nat}
    (h : exists job, s.jobs j = some job ∧ job.completed = true) :
    exists job, (s.changeJobs js f).jobs j = some job ∧
      job.completed = true := by
  rcases h with ⟨job, hjob, hcompleted⟩
  by_cases hj : j ∈ js
  · refine ⟨f job, ?_, (hf job).trans hcompleted⟩
    rw [changeJobs_mem hj, hjob, Option.map_some]
  · exact ⟨job, (changeJobs_not_mem hj).trans hjob, hcompleted⟩

theorem changeJobs_fresh {js : List Nat} {f : DbQueryJob -> DbQueryJob}
    {j : Nat} (h : s.jobs j = none) : (s.changeJobs js f).jobs j = none := by
  by_cases hj : j ∈ js
  · rw [changeJobs_mem hj, h, Option.map_none]
  · exact (changeJobs_not_mem hj).trans h

theorem Accounts.changeJobs (h : s.Accounts) {js : List Nat}
    {f : DbQueryJob -> DbQueryJob}
    (hf : forall job, (f job).completed = job.completed)
    (hjobs : s'.jobs = (s.changeJobs js f).jobs) (hruns : s'.runs = s.runs)
    (hdue : s'.due = s.due) (hnext : s'.nextJob = s.nextJob) :
    s'.Accounts := by
  refine h.frame hruns hdue (Nat.le_of_eq hnext.symm) ?_
  intro j job hpending
  have hchanged : (s.changeJobs js f).Pending j job :=
    ⟨(congrFun hjobs j).symm.trans hpending.left, hpending.right⟩
  rcases pending_of_changeJobs hf hchanged with ⟨job', hpending', -⟩
  exact Or.inl ⟨job', hpending'⟩

theorem withMoved_custody {deleting : Bool} (h : s.Custody)
    (href : s.refs r = some ref) : (s.withMoved r ref deleting).Custody where
  held := by
    intro r' ref' j href' hj
    by_cases hnew : r' = s.nextRef
    · subst hnew
      cases withMoved_new.symm.trans href'
      rcases h.held r ref j href hj with ⟨job, hjob, hwaiting⟩
      refine ⟨told s.nextRef job, ?_, { hwaiting with
        reference := rfl
        owner := rfl }⟩
      exact (changeJobs_mem hj).trans (congrArg (Option.map _) hjob)
    · by_cases hsame : r' = r
      · subst hsame
        cases (withMoved_old (h.ref_lt href)).symm.trans href'
        cases hj
      · rw [withMoved_refs_other hsame hnew] at href'
        have hnot : j ∉ ref.dbQueryJobs :=
          fun hmem => hsame (h.held_once href hmem href' hj)
        rcases h.held r' ref' j href' hj with ⟨job, hjob, hwaiting⟩
        exact ⟨job, (changeJobs_not_mem hnot).trans hjob, hwaiting⟩
  nodup := by
    intro r' ref' href'
    by_cases hnew : r' = s.nextRef
    · subst hnew
      cases withMoved_new.symm.trans href'
      exact h.nodup r ref href
    · by_cases hsame : r' = r
      · subst hsame
        cases (withMoved_old (h.ref_lt href)).symm.trans href'
        exact List.nodup_nil
      · rw [withMoved_refs_other hsame hnew] at href'
        exact h.nodup r' ref' href'
  holder := by
    intro j job hafter
    rcases pending_of_changeJobs (told_completed s.nextRef) hafter
      with ⟨job', hpending, ⟨hj, rfl⟩ | ⟨hj, rfl⟩⟩
    · exact Or.inl ⟨_, withMoved_new, hj⟩
    · have hnew : job.owner ≠ s.nextRef :=
        Nat.ne_of_lt (h.owner j job hpending)
      have hsame : job.owner ≠ r :=
        fun howner => hj (h.held_by_owner href hpending howner)
      rcases h.holder j job hpending with ⟨ref', href', hj'⟩ | hdropped
      · exact Or.inl ⟨ref', (withMoved_refs_other hsame hnew).trans href', hj'⟩
      · exact Or.inr { hdropped with
          gone := (withMoved_refs_other hsame hnew).trans hdropped.gone }
  owner := by
    intro j job hafter
    rcases pending_of_changeJobs (told_completed s.nextRef) hafter
      with ⟨job, hpending, ⟨hj, rfl⟩ | ⟨hj, rfl⟩⟩
    · exact Nat.lt_succ_self _
    · exact Nat.lt_succ_of_lt (h.owner j job hpending)
  freshRef := by
    intro r' hr'
    have hle : s.nextRef + 1 ≤ r' := hr'
    have hlt := h.ref_lt href
    rw [withMoved_refs_other (by omega) (by omega)]
    exact h.freshRef r' (by omega)
  freshJob := by
    intro j hj
    exact changeJobs_fresh (h.freshJob j hj)
  current := by
    intro j hj
    exact changeJobs_current (told_completed s.nextRef) (h.current j hj)

theorem moveRef_consistent {deleting : Bool} (h : s.Consistent)
    (hstep : s.moveRef r deleting = some s') : s'.Consistent := by
  cases href : s.refs r with
  | none =>
      unfold moveRef at hstep
      rw [href] at hstep
      cases hstep
  | some ref =>
      rw [moveRef_eq h.custody href] at hstep
      rw [← Option.some.inj hstep]
      exact ⟨withMoved_custody h.custody href,
        h.accounts.changeJobs (told_completed s.nextRef) rfl rfl rfl rfl⟩

def without (s : JobState) (r : Nat) (ref : DbQueryJobRef) : JobState :=
  (s.setRef r none).changeJobs ref.dbQueryJobs cancelJob

theorem without_refs_other {r' : Nat} (hne : r' ≠ r) :
    (s.without r ref).refs r' = s.refs r' :=
  Function.update_of_ne hne _ _

theorem without_gone : (s.without r ref).refs r = none :=
  Function.update_self _ _ _

theorem cancelJob_dropped {job : DbQueryJob} (hgone : s.refs job.owner = none) :
    s.Dropped (cancelJob job) where
  gone := hgone
  reference := rfl
  canceled := by
    intro hkind
    have hlambda : job.kind = JobKind.lambda := hkind
    simp [cancelJob, hlambda]

theorem without_custody (h : s.Custody) (href : s.refs r = some ref) :
    (s.without r ref).Custody where
  held := by
    intro r' ref' j href' hj
    by_cases hsame : r' = r
    · subst hsame
      cases without_gone.symm.trans href'
    · rw [without_refs_other hsame] at href'
      have hnot : j ∉ ref.dbQueryJobs :=
        fun hmem => hsame (h.held_once href hmem href' hj)
      rcases h.held r' ref' j href' hj with ⟨job, hjob, hwaiting⟩
      exact ⟨job, (changeJobs_not_mem hnot).trans hjob, hwaiting⟩
  nodup := by
    intro r' ref' href'
    by_cases hsame : r' = r
    · subst hsame
      cases without_gone.symm.trans href'
    · rw [without_refs_other hsame] at href'
      exact h.nodup r' ref' href'
  holder := by
    intro j job hafter
    rcases pending_of_changeJobs cancelJob_completed hafter
      with ⟨job', hpending, ⟨hj, rfl⟩ | ⟨hj, rfl⟩⟩
    · rcases h.held r ref j href hj with ⟨job'', hjob'', hwaiting⟩
      cases hpending.left.symm.trans hjob''
      apply Or.inr
      apply cancelJob_dropped
      rw [hwaiting.owner]
      exact without_gone
    · have hsame : job.owner ≠ r :=
        fun howner => hj (h.held_by_owner href hpending howner)
      rcases h.holder j job hpending with ⟨ref', href', hj'⟩ | hdropped
      · exact Or.inl ⟨ref', (without_refs_other hsame).trans href', hj'⟩
      · exact Or.inr { hdropped with
          gone := (without_refs_other hsame).trans hdropped.gone }
  owner := by
    intro j job hafter
    rcases pending_of_changeJobs cancelJob_completed hafter
      with ⟨job', hpending, ⟨-, rfl⟩ | ⟨-, rfl⟩⟩
    · exact h.owner j job' hpending
    · exact h.owner j job hpending
  freshRef := by
    intro r' hr'
    have hle : s.nextRef ≤ r' := hr'
    have hlt := h.ref_lt href
    rw [without_refs_other (by omega)]
    exact h.freshRef r' hr'
  freshJob := by
    intro j hj
    exact changeJobs_fresh (h.freshJob j hj)
  current := by
    intro j hj
    exact changeJobs_current cancelJob_completed (h.current j hj)

theorem destroyRef_consistent (h : s.Consistent)
    (hstep : s.destroyRef r = some s') : s'.Consistent := by
  cases href : s.refs r with
  | none =>
      unfold destroyRef at hstep
      rw [href] at hstep
      cases hstep
  | some ref =>
      rw [destroyRef_eq h.custody href] at hstep
      rw [← Option.some.inj hstep]
      exact ⟨without_custody h.custody href,
        h.accounts.changeJobs cancelJob_completed rfl rfl rfl rfl⟩

/-! ### Jobs that are done -/

def completedJob (job : DbQueryJob) : DbQueryJob :=
  { job with completed := true }

def DbQueryJobRef.drop (ref : DbQueryJobRef) (j : Nat) : DbQueryJobRef :=
  { ref with dbQueryJobs := ref.dbQueryJobs.erase j }

structure Done (s : JobState) (j : Nat) (job : DbQueryJob) (s' : JobState) :
    Prop where
  pending : s.Pending j job
  jobs : s'.jobs = Function.update s.jobs j (some (completedJob job))
  refs : forall r, s'.refs r =
    (s.refs r).map fun ref => DbQueryJobRef.drop ref j
  nextRef : s'.nextRef = s.nextRef
  nextJob : s'.nextJob = s.nextJob
  current : s'.current = some j
  runs : forall k, k ≠ j -> s'.runs k = s.runs k
  due : forall k, k ≠ j -> s'.due k = s.due k
  settled : (s'.runs j = [] ∧ s'.due j = false) ∨ s'.runs j = [true]

namespace Done

variable {j : Nat} {job : DbQueryJob} (hdone : Done s j job s')
include hdone

theorem jobs_other {k : Nat} (hne : k ≠ j) : s'.jobs k = s.jobs k :=
  (congrFun hdone.jobs k).trans (Function.update_of_ne hne _ _)

theorem jobs_self : s'.jobs j = some (completedJob job) :=
  (congrFun hdone.jobs j).trans (Function.update_self _ _ _)

theorem refs_some (href : s'.refs r = some ref) :
    exists ref', s.refs r = some ref' ∧ ref = DbQueryJobRef.drop ref' j := by
  rw [hdone.refs r] at href
  rcases Option.map_eq_some_iff.mp href with ⟨ref', href', heq⟩
  exact ⟨ref', href', heq.symm⟩

theorem pending_other {k : Nat} {job' : DbQueryJob} (h : s'.Pending k job') :
    k ≠ j ∧ s.Pending k job' := by
  have hne : k ≠ j := by
    intro heq
    subst heq
    cases hdone.jobs_self.symm.trans h.left
    cases h.right
  exact ⟨hne, (hdone.jobs_other hne).symm.trans h.left, h.right⟩

theorem custody (h : s.Custody) : s'.Custody where
  held := by
    intro r ref k href hk
    rcases hdone.refs_some href with ⟨ref', href', rfl⟩
    rcases (h.nodup r ref' href').mem_erase_iff.mp hk with ⟨hne, hold⟩
    rw [hdone.jobs_other hne]
    exact h.held r ref' k href' hold
  nodup := by
    intro r ref href
    rcases hdone.refs_some href with ⟨ref', href', rfl⟩
    exact (h.nodup r ref' href').erase j
  holder := by
    intro k job' hafter
    rcases hdone.pending_other hafter with ⟨hne, hpending⟩
    rcases h.holder k job' hpending with ⟨ref, href, hk⟩ | hdropped
    · refine Or.inl ⟨DbQueryJobRef.drop ref j, ?_, ?_⟩
      · rw [hdone.refs, href, Option.map_some]
      · exact (List.mem_erase_of_ne hne).mpr hk
    · refine Or.inr { hdropped with gone := ?_ }
      rw [hdone.refs, hdropped.gone, Option.map_none]
  owner := by
    intro k job' hafter
    rw [hdone.nextRef]
    exact h.owner k job' (hdone.pending_other hafter).right
  freshRef := by
    intro r hr
    rw [hdone.nextRef] at hr
    rw [hdone.refs, h.freshRef r hr, Option.map_none]
  freshJob := by
    intro k hk
    rw [hdone.nextJob] at hk
    have hlt := h.job_lt hdone.pending.left
    rw [hdone.jobs_other (by omega)]
    exact h.freshJob k hk
  current := by
    intro k hk
    cases hdone.current.symm.trans hk
    exact ⟨completedJob job, hdone.jobs_self, rfl⟩

theorem accounts (h : s.Accounts) (hlt : j < s.nextJob) : s'.Accounts where
  pending := by
    intro k job' hafter
    rcases hdone.pending_other hafter with ⟨hne, hpending⟩
    rw [hdone.runs k hne, hdone.due k hne]
    exact h.pending k job' hpending
  fresh := by
    intro k hk
    rw [hdone.nextJob] at hk
    have hne : k ≠ j := by omega
    rw [hdone.runs k hne, hdone.due k hne]
    exact h.fresh k hk
  settled := by
    intro k
    by_cases hsame : k = j
    · subst hsame
      exact hdone.settled
    · rw [hdone.runs k hsame, hdone.due k hsame]
      exact h.settled k

theorem consistent (h : s.Consistent) : s'.Consistent where
  custody := hdone.custody h.custody
  accounts := hdone.accounts h.accounts
    (h.custody.job_lt hdone.pending.left)

end Done

theorem drop_of_not_mem {j : Nat} (hnot : j ∉ ref.dbQueryJobs) :
    DbQueryJobRef.drop ref j = ref := by
  unfold DbQueryJobRef.drop
  rw [List.erase_of_not_mem hnot]

theorem complete_dropped {j : Nat} {job : DbQueryJob} {status : JobStatus}
    (h : s.Consistent) (hpending : s.Pending j job) (hdropped : s.Dropped job)
    (hstep : s.complete j status = some s') : Done s j job s' := by
  rcases complete_cases hstep with
    ⟨job', after, -, hpending', -, -, hafter, heq⟩
  cases hpending.left.symm.trans hpending'.left
  have hsilent : s.onDone j job status = some s := by
    unfold onDone
    cases hkind : job.kind with
    | callback => simp only [hdropped.reference]
    | lambda => simp only [hdropped.canceled hkind, ↓reduceIte]
  cases hsilent.symm.trans hafter
  rcases h.accounts.pending j job hpending with ⟨hruns, -⟩
  have hnot : forall r ref, s.refs r = some ref -> j ∉ ref.dbQueryJobs := by
    intro r ref href hj
    rcases h.custody.held r ref j href hj with ⟨job', hjob', hwaiting⟩
    cases hpending.left.symm.trans hjob'
    cases hdropped.reference.symm.trans hwaiting.reference
  subst heq
  exact
    { pending := hpending
      jobs := rfl
      refs := by
        intro r
        cases href : s.refs r with
        | none => exact href
        | some ref =>
            rw [Option.map_some, drop_of_not_mem (hnot r ref href)]
            exact href
      nextRef := rfl
      nextJob := rfl
      current := rfl
      runs := fun k hne => rfl
      due := fun k hne => Function.update_of_ne hne _ _
      settled := by
        refine Or.inl ⟨hruns, (Function.update_self _ _ _).trans ?_⟩
        rw [hdropped.gone]
        exact Bool.and_false _ }

theorem complete_waiting {j : Nat} {job : DbQueryJob} {status : JobStatus}
    (h : s.Consistent) (hpending : s.Pending j job)
    (href : s.refs job.owner = some ref) (hj : j ∈ ref.dbQueryJobs)
    (hstays : ¬Stays ref job.kind)
    (hstep : s.complete j status = some s') : Done s j job s' := by
  rcases complete_cases hstep with
    ⟨job', after, -, hpending', -, hcanceled, hafter, heq⟩
  cases hpending.left.symm.trans hpending'.left
  rcases h.custody.held _ ref j href hj with ⟨job', hjob', hwaiting⟩
  cases hpending.left.symm.trans hjob'
  rcases h.accounts.pending j job hpending with ⟨hruns, -⟩
  have hkind : job.kind = JobKind.callback := by
    cases hkind : job.kind with
    | callback => rfl
    | lambda => exact (hstays (Or.inl hkind)).elim
  have hdeleting : ref.deleting = false :=
    Bool.eq_false_iff.mpr fun hd => hstays (Or.inr hd)
  have hstatus : status ≠ JobStatus.canceled := by
    intro hst
    have := hcanceled hst
    rw [hwaiting.canceled] at this
    cases this
  have htold : s.onDone j job status =
      some ((s.setRef job.owner (some (DbQueryJobRef.drop ref j))).run j
        job) := by
    simp only [onDone, hkind, hwaiting.reference, onQueryDone, href, hdeleting,
      Bool.false_eq_true, ↓reduceIte, Option.map_some, hwaiting.session,
      hstatus, ne_eq, not_false_eq_true, and_self, DbQueryJobRef.drop]
  cases htold.symm.trans hafter
  have halive : (Function.update s.refs job.owner
      (some (DbQueryJobRef.drop ref j)) job.owner).isSome = true := by
    rw [Function.update_self]
    rfl
  subst heq
  exact
    { pending := hpending
      jobs := rfl
      refs := by
        intro r
        by_cases hsame : r = job.owner
        · subst hsame
          rw [href]
          exact Function.update_self _ _ _
        · have hother := Function.update_of_ne hsame
            (some (DbQueryJobRef.drop ref j)) s.refs
          refine hother.trans ?_
          cases href' : s.refs r with
          | none => rfl
          | some ref' =>
              have hnot : j ∉ ref'.dbQueryJobs := fun hj' =>
                hsame (h.custody.held_once href hj href' hj')
              rw [Option.map_some, drop_of_not_mem hnot]
      nextRef := rfl
      nextJob := rfl
      current := rfl
      runs := fun k hne => Function.update_of_ne hne _ _
      due := fun k hne => Function.update_of_ne hne _ _
      settled := by
        refine Or.inr ((Function.update_self _ _ _).trans ?_)
        change s.runs j ++ [(Function.update s.refs job.owner _ _).isSome] = _
        rw [hruns, halive]
        rfl }

theorem complete_consistent {j : Nat} {status : JobStatus}
    (h : s.Consistent) (hstep : s.complete j status = some s')
    (hgood : ¬s.Leaves (JobEvent.complete j status)) : s'.Consistent := by
  rcases complete_cases hstep with ⟨job, after, -, hpending, -⟩
  rcases h.custody.holder j job hpending with ⟨ref, href, hj⟩ | hdropped
  · have hstays : ¬Stays ref job.kind := fun hstays =>
      hgood ⟨_, ref, job, href, hj, hpending.left, hstays⟩
    exact (complete_waiting h hpending href hj hstays hstep).consistent h
  · exact (complete_dropped h hpending hdropped hstep).consistent h

theorem finish_consistent (h : s.Consistent) (hstep : s.finish = some s') :
    s'.Consistent := by
  unfold finish at hstep
  cases hcurrent : s.current with
  | none =>
      rw [hcurrent] at hstep
      cases hstep
  | some j =>
      rw [hcurrent] at hstep
      have heq := Option.some.inj hstep
      subst heq
      rcases h.custody.current j hcurrent with ⟨job, hjob, hcompleted⟩
      have hpending : forall k job', Pending
          { s.setJob j none with current := none } k job' ->
            s.Pending k job' := by
        intro k job' hafter
        by_cases hsame : k = j
        · subst hsame
          cases (Function.update_self _ _ _).symm.trans hafter.left
        · exact ⟨(setJob_other hsame).symm.trans hafter.left, hafter.right⟩
      refine ⟨?_, ?_⟩
      · exact
          { held := by
              intro r ref k href hk
              rcases h.custody.held r ref k href hk with ⟨job', hjob', hwaiting⟩
              have hne : k ≠ j := by
                intro hsame
                subst hsame
                cases hjob.symm.trans hjob'
                rw [hwaiting.pending] at hcompleted
                cases hcompleted
              exact ⟨job', (setJob_other hne).trans hjob', hwaiting⟩
            nodup := h.custody.nodup
            holder := by
              intro k job' hafter
              rcases h.custody.holder k job' (hpending k job' hafter)
                with hheld | hdropped
              · exact Or.inl hheld
              · exact Or.inr { hdropped with }
            owner := by
              intro k job' hafter
              exact h.custody.owner k job' (hpending k job' hafter)
            freshRef := h.custody.freshRef
            freshJob := by
              intro k hk
              have hlt := h.custody.job_lt hjob
              have hle : s.nextJob ≤ k := hk
              exact (setJob_other (by omega)).trans (h.custody.freshJob k hk)
            current := by
              intro k hk
              cases hk }
      · exact h.accounts.frame rfl rfl (Nat.le_refl _) (by
          intro k job' hafter
          exact Or.inl ⟨job', hpending k job' hafter⟩)

theorem step_consistent {e : JobEvent} (h : s.Consistent)
    (hstep : Step s e s') (hgood : ¬s.Leaves e) : s'.Consistent := by
  cases e with
  | newRef =>
      rw [← Option.some.inj hstep]
      exact newRef_consistent h
  | executeDbQuery r kind bound => exact executeDbQuery_consistent h hstep hgood
  | moveRef r deleting => exact moveRef_consistent h hstep
  | destroyRef r => exact destroyRef_consistent h hstep
  | complete j status => exact complete_consistent h hstep hgood
  | finish => exact finish_consistent h hstep

end Keeping

/--
The references know their jobs all along a run exactly if no job of an existing
reference completes and stays in the list.
-/
theorem tracks_iff {history : List JobEvent} {s : JobState}
    (h : Run Step initial history s) :
    Throughout Step initial Tracks history ↔
      Avoids Step initial Leaves history := by
  apply throughout_iff_avoids_of_kept step_deterministic consistent_initial
  · intro s hkept
    exact hkept.tracks
  · intro s l s' hkept hstep hgood
    exact step_consistent hkept hstep hgood
  · intro s l s' _ hstep hleaves
    exact step_leaves hstep hleaves
  · exact h

/-! ## Runs of a reference and its jobs -/

def nextEvent (s : JobState) (e : JobEvent) : Option (JobEvent × JobState) :=
  (s.handle e).map fun s' => (e, s')

theorem nextEvent_step (s : JobState) (e e' : JobEvent) (s' : JobState)
    (h : s.nextEvent e = some (e', s')) : Step s e' s' := by
  rcases Option.map_eq_some_iff.mp h with ⟨s'', hhandle, heq⟩
  cases heq
  exact hhandle

/-- One job completes, and another is canceled with the reference. -/
def canceledEvents : List JobEvent :=
  [JobEvent.newRef, JobEvent.executeDbQuery 0 JobKind.callback true,
    JobEvent.executeDbQuery 0 JobKind.lambda true,
    JobEvent.complete 0 JobStatus.ok, JobEvent.destroyRef 0, JobEvent.finish,
    JobEvent.complete 1 JobStatus.error, JobEvent.finish]

theorem canceledEvents_run : exists s, Run Step initial canceledEvents s := by
  have hreplay : exists s,
      replay nextEvent initial canceledEvents = some (canceledEvents, s) :=
    ⟨_, rfl⟩
  rcases hreplay with ⟨s, heq⟩
  exact ⟨s, replay_run nextEvent_step Run.nil heq⟩

theorem tracks_iff_canceledEvents :
    exists s, Run Step initial canceledEvents s ∧
      (Throughout Step initial Tracks canceledEvents ↔
        Avoids Step initial Leaves canceledEvents) := by
  rcases canceledEvents_run with ⟨s, hrun⟩
  exact ⟨s, hrun, tracks_iff hrun⟩

def lambdaEvents : List JobEvent :=
  [JobEvent.newRef, JobEvent.executeDbQuery 0 JobKind.lambda true,
    JobEvent.complete 0 JobStatus.ok, JobEvent.finish]

/-- The job is deleted, and the reference keeps the pointer. -/
theorem not_tracks_lambda :
    ¬forall history s, Run Step initial history s -> s.Tracks := by
  intro h
  have hreplay : exists s,
      replay nextEvent initial lambdaEvents = some (lambdaEvents, s) ∧
        s.refs 0 = some ⟨[0], false⟩ ∧ s.jobs 0 = none :=
    ⟨_, rfl, rfl, rfl⟩
  rcases hreplay with ⟨s, heq, href, hjob⟩
  have htracks := h lambdaEvents s (replay_run nextEvent_step Run.nil heq)
  rcases htracks.live 0 _ 0 href (by simp) with ⟨job, hlive, -⟩
  rw [hjob] at hlive
  cases hlive

end JobState

end Database
end Rzu
