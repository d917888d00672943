import Rzu.Database.DbQueryBinding

/-!
# What a query does to the database

What the steps do is read off the dialogue, and so is which of them have failed.
The result should tell what the database has kept.
-/

namespace Rzu
namespace Database

open Library

/-!
## What the steps do
-/

namespace Step

def usesConnection : Step -> Bool
  | getConnection _ | onRowDone | paramStatus _ => false
  | _ => true

def isGetConnection : Step -> Bool
  | getConnection _ => true
  | _ => false

def isExecute : Step -> Bool
  | execute _ _ => true
  | _ => false

/-- What decides whether an execution is for the inputs that it is meant for. -/
def isBinding : Step -> Bool
  | setAttribute _ | bindParameter _ _ _ | paramStatus _ => true
  | _ => false

def isGetColumnNum : Step -> Bool
  | getColumnNum => true
  | _ => false

def isGetData : Step -> Bool
  | getData _ => true
  | _ => false

def isEndTransaction : Step -> Bool
  | endTransaction _ => true
  | _ => false

def isSetAutoCommit : Step -> Bool
  | setAutoCommit _ => true
  | _ => false

end Step

def Fails (d : Talk) (kind : Step -> Bool) : Prop :=
  exists x, x ∈ d ∧ kind x.1 = true ∧ x.2.ok = false

def Succeeds (d : Talk) (kind : Step -> Bool) : Prop :=
  exists x, x ∈ d ∧ kind x.1 = true ∧ x.2.ok = true

/--
The state of the connection and of the database.  An input counts as executed if
all that binds it has succeeded, and the execution.
-/
structure Effects where
  autoCommit : Bool
  bound : Bool
  wellBound : Bool
  executed : List Nat
  uncommitted : Bool
  committed : Bool
  transaction : Bool
  releases : Nat
  misused : Bool

namespace Effects

def initial (autoCommit : Bool) : Effects where
  autoCommit := autoCommit
  bound := true
  wellBound := false
  executed := []
  uncommitted := false
  committed := false
  transaction := false
  releases := 0
  misused := false

/-- A connection that is released is not to be used any more. -/
def use (e : Effects) (step : Step) : Effects :=
  { e with misused := e.misused || (step.usesConnection && 0 < e.releases) }

def apply (e : Effects) (x : Step × Answer) : Effects :=
  match x.1 with
  | Step.setAutoCommit enable =>
      { e with autoCommit := if x.2.ok then enable else e.autoCommit }
  | Step.setAttribute _ | Step.bindParameter _ _ _ =>
      { e with bound := e.bound && x.2.ok }
  | Step.execute _ inputs =>
      if x.2.ok then
        { e with
          bound := true
          wellBound := e.bound
          executed := if e.bound then e.executed ++ inputs else e.executed
          uncommitted := e.uncommitted || !e.autoCommit
          committed := e.committed || e.autoCommit }
      else { e with bound := true, wellBound := false }
  | Step.paramStatus input =>
      { e with
        executed :=
          if e.wellBound && x.2.ok then e.executed ++ [input]
          else e.executed }
  | Step.endTransaction commit =>
      if x.2.ok then
        { e with
          transaction := e.transaction || commit
          committed := e.committed || (commit && e.uncommitted)
          uncommitted := false }
      else e
  | Step.release => { e with releases := e.releases + 1 }
  | Step.releaseWithError =>
      { e with releases := e.releases + 1, uncommitted := false }
  | _ => e

def step (e : Effects) (x : Step × Answer) : Effects := (e.use x.1).apply x

end Effects

/-- The effects of a dialogue on a connection that commits by itself or not. -/
def effects (autoCommit : Bool) (d : Talk) : Effects :=
  d.foldl Effects.step (Effects.initial autoCommit)

/-!
## The property
-/

/-- The result tells what has been kept, and the connection is given back. -/
structure TellsPersisted (autoCommit : Bool) (inputNumber : Nat)
    (p : Processed) : Prop where
  returns : p.result ≠ none
  persisted : p.result = some true ↔
    (forall input, input < inputNumber ->
      input ∈ (effects autoCommit p.said).executed) ∧
      (effects autoCommit p.said).transaction = true
  nothing : p.result = some false ->
    (effects autoCommit p.said).committed = false
  released : Succeeds p.said Step.isGetConnection ->
    (effects autoCommit p.said).releases = 1
  notObtained : ¬Succeeds p.said Step.isGetConnection ->
    (effects autoCommit p.said).releases = 0
  unused : (effects autoCommit p.said).misused = false

/-- Which steps may fail without the result being wrong. -/
structure NoTrouble (autoCommit : Bool) (d : Talk) : Prop where
  columns : ¬Fails d Step.isGetColumnNum
  data : ¬Fails d Step.isGetData
  transaction : ¬Fails d Step.isEndTransaction
  binding : Fails d Step.isBinding -> Fails d Step.isExecute
  byItself : Fails d Step.isExecute -> autoCommit = true ->
    Fails d Step.isSetAutoCommit -> ¬Succeeds d Step.isExecute

section Lists

variable {d d' : Talk} {kind : Step -> Bool} {autoCommit : Bool}

theorem effects_append :
    effects autoCommit (d ++ d') =
      d'.foldl Effects.step (effects autoCommit d) :=
  List.foldl_append

theorem fails_append : Fails (d ++ d') kind ↔ Fails d kind ∨ Fails d' kind := by
  constructor
  · rintro ⟨x, hx, hkind, hok⟩
    rcases List.mem_append.mp hx with hx | hx
    · exact Or.inl ⟨x, hx, hkind, hok⟩
    · exact Or.inr ⟨x, hx, hkind, hok⟩
  · rintro (⟨x, hx, hkind, hok⟩ | ⟨x, hx, hkind, hok⟩)
    · exact ⟨x, List.mem_append_left d' hx, hkind, hok⟩
    · exact ⟨x, List.mem_append_right d hx, hkind, hok⟩

theorem succeeds_append :
    Succeeds (d ++ d') kind ↔ Succeeds d kind ∨ Succeeds d' kind := by
  constructor
  · rintro ⟨x, hx, hkind, hok⟩
    rcases List.mem_append.mp hx with hx | hx
    · exact Or.inl ⟨x, hx, hkind, hok⟩
    · exact Or.inr ⟨x, hx, hkind, hok⟩
  · rintro (⟨x, hx, hkind, hok⟩ | ⟨x, hx, hkind, hok⟩)
    · exact ⟨x, List.mem_append_left d' hx, hkind, hok⟩
    · exact ⟨x, List.mem_append_right d hx, hkind, hok⟩

theorem fails_cons {x : Step × Answer} :
    Fails (x :: d) kind ↔
      (kind x.1 = true ∧ x.2.ok = false) ∨ Fails d kind := by
  simp [Fails]

theorem succeeds_cons {x : Step × Answer} :
    Succeeds (x :: d) kind ↔
      (kind x.1 = true ∧ x.2.ok = true) ∨ Succeeds d kind := by
  simp [Succeeds]

theorem not_fails_nil : ¬Fails [] kind := by
  rintro ⟨x, hx, -⟩
  cases hx

theorem not_succeeds_nil : ¬Succeeds [] kind := by
  rintro ⟨x, hx, -⟩
  cases hx

theorem not_fails_of_all (h : forall x, x ∈ d -> kind x.1 = false) :
    ¬Fails d kind := by
  rintro ⟨x, hx, hkind, -⟩
  rw [h x hx] at hkind
  cases hkind

theorem not_succeeds_of_all (h : forall x, x ∈ d -> kind x.1 = false) :
    ¬Succeeds d kind := by
  rintro ⟨x, hx, hkind, -⟩
  rw [h x hx] at hkind
  cases hkind

end Lists

/-!
## Steps that read
-/

namespace Step

/-- The steps that leave the transaction and its bindings alone. -/
def reads : Step -> Bool
  | getColumnNum | getColumnName _ | fetch | getData _ | onRowDone
  | closeCursor => true
  | _ => false

def binds : Step -> Bool
  | setAttribute _ | bindParameter _ _ _ => true
  | _ => false

def isParamStatus : Step -> Bool
  | paramStatus _ => true
  | _ => false

theorem kinds_of_reads {step : Step} (h : step.reads = true) :
    step.isGetConnection = false ∧ step.isExecute = false ∧
      step.isBinding = false ∧ step.isEndTransaction = false ∧
        step.isSetAutoCommit = false := by
  cases step with
  | getColumnNum | getColumnName | fetch | getData | onRowDone
  | closeCursor => exact ⟨rfl, rfl, rfl, rfl, rfl⟩
  | getConnection | setAutoCommit | setAttribute | bindParameter | execute
  | paramStatus | endTransaction | release | releaseWithError => cases h

theorem kinds_of_binds {step : Step} (h : step.binds = true) :
    step.isGetConnection = false ∧ step.isExecute = false ∧
      step.isBinding = true ∧ step.isEndTransaction = false ∧
        step.isSetAutoCommit = false ∧ step.isGetColumnNum = false ∧
          step.isGetData = false := by
  cases step with
  | setAttribute | bindParameter =>
      exact ⟨rfl, rfl, rfl, rfl, rfl, rfl, rfl⟩
  | getColumnNum | getColumnName | fetch | getData | onRowDone
  | closeCursor | getConnection | setAutoCommit | execute | paramStatus
  | endTransaction | release | releaseWithError => cases h

theorem kinds_of_isParamStatus {step : Step} (h : step.isParamStatus = true) :
    step.isGetConnection = false ∧ step.isExecute = false ∧
      step.isEndTransaction = false ∧ step.isSetAutoCommit = false ∧
        step.isGetColumnNum = false ∧ step.isGetData = false := by
  cases step with
  | paramStatus => exact ⟨rfl, rfl, rfl, rfl, rfl, rfl⟩
  | getColumnNum | getColumnName | fetch | getData | onRowDone
  | closeCursor | getConnection | setAutoCommit | setAttribute
  | bindParameter | execute | endTransaction | release
  | releaseWithError => cases h

end Step

namespace Effects

theorem use_of_held {e : Effects} (h : e.releases = 0) (step : Step) :
    e.use step = e := by
  cases e
  simp only [use] at *
  subst h
  simp

theorem apply_reads {e : Effects} {x : Step × Answer}
    (h : x.1.reads = true) : e.apply x = e := by
  rcases x with ⟨step, answer⟩
  cases step with
  | getColumnNum | getColumnName | fetch | getData | onRowDone
  | closeCursor => rfl
  | getConnection => rfl
  | setAutoCommit | setAttribute | bindParameter | execute | paramStatus
  | endTransaction | release | releaseWithError => cases h

theorem foldl_reads {e : Effects} (h : e.releases = 0) {d : Talk}
    (hreads : forall x, x ∈ d -> x.1.reads = true) :
    d.foldl step e = e := by
  induction d with
  | nil => rfl
  | cons x d ih =>
      rw [List.foldl_cons, step, use_of_held h,
        apply_reads (hreads x List.mem_cons_self)]
      exact ih fun x hx => hreads x (List.mem_cons_of_mem _ hx)

theorem apply_binds {e : Effects} {x : Step × Answer}
    (h : x.1.binds = true) :
    e.apply x = { e with bound := e.bound && x.2.ok } := by
  rcases x with ⟨step, answer⟩
  cases step with
  | setAttribute | bindParameter => rfl
  | getConnection | getColumnNum | getColumnName | fetch | getData | onRowDone
  | closeCursor | setAutoCommit | execute | paramStatus | endTransaction
  | release | releaseWithError => cases h

theorem foldl_binds {e : Effects} (h : e.releases = 0) {d : Talk}
    (hbinds : forall x, x ∈ d -> x.1.binds = true) :
    d.foldl step e = { e with
      bound := e.bound && d.all fun x => x.2.ok } := by
  induction d generalizing e with
  | nil => simp
  | cons x d ih =>
      rw [List.foldl_cons, step, use_of_held h,
        apply_binds (hbinds x List.mem_cons_self), ih (by exact h)
        fun x hx => hbinds x (List.mem_cons_of_mem _ hx), List.all_cons]
      simp only [Bool.and_assoc]

theorem foldl_statuses {e : Effects} (h : e.releases = 0)
    (hbound : e.wellBound = false) {d : Talk}
    (hstatus : forall x, x ∈ d -> x.1.isParamStatus = true) :
    d.foldl step e = e := by
  induction d with
  | nil => rfl
  | cons x d ih =>
      have hfirst : e.apply x = e := by
        have hx := hstatus x List.mem_cons_self
        rcases x with ⟨step, answer⟩
        cases step with
        | paramStatus input =>
            have hsame : (if (e.wellBound && answer.ok) = true then
                e.executed ++ [input] else e.executed) = e.executed := by
              rw [hbound]
              rfl
            rw [apply]
            dsimp only
            rw [hsame]
        | getColumnNum | getColumnName | fetch | getData | onRowDone
        | closeCursor | getConnection | setAutoCommit | setAttribute
        | bindParameter | execute | endTransaction | release
        | releaseWithError => cases hx
      rw [List.foldl_cons, step, use_of_held h, hfirst]
      exact ih fun x hx => hstatus x (List.mem_cons_of_mem _ hx)

theorem apply_misused (e : Effects) (x : Step × Answer) :
    (e.apply x).misused = e.misused := by
  rw [apply]
  split
  · rfl
  · rfl
  · rfl
  · split
    · rfl
    · rfl
  · rfl
  · split
    · rfl
    · rfl
  · rfl
  · rfl
  · rfl

theorem apply_releases (e : Effects) (x : Step × Answer) :
    e.releases ≤ (e.apply x).releases := by
  rw [apply]
  split
  · exact Nat.le_refl _
  · exact Nat.le_refl _
  · exact Nat.le_refl _
  · split
    · exact Nat.le_refl _
    · exact Nat.le_refl _
  · exact Nat.le_refl _
  · split
    · exact Nat.le_refl _
    · exact Nat.le_refl _
  · exact Nat.le_succ _
  · exact Nat.le_succ _
  · exact Nat.le_refl _

theorem misused_foldl {e : Effects} (h : e.misused = true) (d : Talk) :
    (d.foldl step e).misused = true := by
  induction d generalizing e with
  | nil => exact h
  | cons x d ih =>
      apply ih
      rw [step, apply_misused, use, h]
      rfl

theorem misused_of_use {e : Effects} (h : 0 < e.releases) {d : Talk}
    {x : Step × Answer} (hx : x ∈ d) (huses : x.1.usesConnection = true) :
    (d.foldl step e).misused = true := by
  induction d generalizing e with
  | nil => cases hx
  | cons first d ih =>
      rw [List.foldl_cons]
      rcases List.mem_cons.mp hx with heq | hmem
      · apply misused_foldl
        rw [step, apply_misused, ← heq, use, huses, decide_eq_true h]
        exact Bool.or_true _
      · exact ih (Nat.lt_of_lt_of_le h
          (apply_releases (e.use first.1) first)) hmem

end Effects

/-!
## A transaction that goes on
-/

/-- After executions that have all succeeded, for the first `count` inputs. -/
structure Progress (autoCommit : Bool) (count : Nat) (d : Talk) : Prop where
  obtained : Succeeds d Step.isGetConnection
  bound : (effects autoCommit d).bound = true
  below : forall input, input ∈ (effects autoCommit d).executed ->
    input < count
  executed : (forall input, input < count ->
    input ∈ (effects autoCommit d).executed) ↔ ¬Fails d Step.isBinding
  committed : (effects autoCommit d).committed =
    ((effects autoCommit d).autoCommit && decide (0 < count))
  transaction : (effects autoCommit d).transaction = false
  releases : (effects autoCommit d).releases = 0
  misused : (effects autoCommit d).misused = false
  columns : ¬Fails d Step.isGetColumnNum
  data : ¬Fails d Step.isGetData
  ended : ¬Fails d Step.isEndTransaction
  failed : ¬Fails d Step.isExecute
  succeeded : Succeeds d Step.isExecute ↔ 0 < count
  byItself : (effects autoCommit d).autoCommit = true ↔
    autoCommit = true ∧ Fails d Step.isSetAutoCommit

section Endings

variable {autoCommit : Bool} {count : Nat} {d said : Talk}

theorem effects_end (h : (effects autoCommit d).releases = 0)
    (commit : Bool) (a a' : Answer) :
    effects autoCommit
        (d ++ [(Step.endTransaction commit, a), (Step.release, a')]) =
      { (effects autoCommit d) with
        transaction := (effects autoCommit d).transaction || (commit && a.ok)
        committed := (effects autoCommit d).committed ||
          (commit && a.ok && (effects autoCommit d).uncommitted)
        uncommitted := (effects autoCommit d).uncommitted && !a.ok
        releases := 1 } := by
  rw [effects_append]
  generalize effects autoCommit d = e at *
  rw [List.foldl_cons, List.foldl_cons, List.foldl_nil]
  cases hok : a.ok with
  | true => simp [Effects.step, Effects.apply, Effects.use, hok, h]
  | false => simp [Effects.step, Effects.apply, Effects.use, hok, h]

theorem Progress.commit (h : Progress autoCommit count d) (b : DbQueryBinding)
    (a a' : Answer) :
    TellsPersisted autoCommit count
        ⟨some true, d ++ [(Step.endTransaction true, a), (Step.release, a')],
          b⟩ ↔
      NoTrouble autoCommit
        (d ++ [(Step.endTransaction true, a), (Step.release, a')]) := by
  have heffects := effects_end (d := d) h.releases true a a'
  constructor
  · intro hp
    rcases hp.persisted.mp rfl with ⟨hall, htransaction⟩
    rw [heffects] at hall htransaction
    have hok : a.ok = true := by
      rw [← htransaction]
      simp [h.transaction]
    have hbinding := h.executed.mp fun input hinput => by
      simpa [hok] using hall input hinput
    constructor
    · simp [fails_append, fails_cons, not_fails_nil, Step.isGetColumnNum,
        h.columns]
    · simp [fails_append, fails_cons, not_fails_nil, Step.isGetData, h.data]
    · simp [fails_append, fails_cons, not_fails_nil, Step.isEndTransaction,
        h.ended, hok]
    · simp [fails_append, fails_cons, not_fails_nil, Step.isBinding,
        hbinding]
    · simp [fails_append, fails_cons, not_fails_nil, Step.isExecute, h.failed]
  · intro hn
    have hok : a.ok = true := by
      have htransaction := hn.transaction
      simpa [fails_append, fails_cons, not_fails_nil, Step.isEndTransaction,
        h.ended] using htransaction
    have hbinding : ¬Fails d Step.isBinding := by
      have hfails := hn.binding
      simpa [fails_append, fails_cons, not_fails_nil, Step.isBinding,
        Step.isExecute, h.failed] using hfails
    constructor
    · intro hnone
      cases hnone
    · rw [heffects]
      constructor
      · intro _
        refine ⟨h.executed.mpr hbinding, ?_⟩
        rw [hok]
        exact Bool.or_true _
      · intro _
        rfl
    · intro hfalse
      cases hfalse
    · intro _
      rw [heffects]
    · intro hnot
      exact absurd (succeeds_append.mpr (Or.inl h.obtained)) hnot
    · rw [heffects]
      exact h.misused

theorem Progress.rollback (h : Progress autoCommit count d)
    (b : DbQueryBinding) (hreads : forall x, x ∈ said -> x.1.reads = true)
    (hdata : Fails said Step.isGetData) (a a' : Answer) (inputNumber : Nat) :
    TellsPersisted autoCommit inputNumber
        ⟨some true, d ++ said ++
          [(Step.endTransaction false, a), (Step.release, a')], b⟩ ↔
      NoTrouble autoCommit (d ++ said ++
        [(Step.endTransaction false, a), (Step.release, a')]) := by
  have hread : effects autoCommit (d ++ said) = effects autoCommit d := by
    rw [effects_append, Effects.foldl_reads h.releases hreads]
  have heffects := effects_end (d := d ++ said)
    (by rw [hread]; exact h.releases) false a a'
  constructor
  · intro hp
    rcases hp.persisted.mp rfl with ⟨-, htransaction⟩
    rw [heffects, hread] at htransaction
    simp [h.transaction] at htransaction
  · intro hn
    exact absurd (fails_append.mpr (Or.inl (fails_append.mpr (Or.inr hdata))))
      hn.data

theorem fails_binding_iff (hbinds : forall x, x ∈ said -> x.1.binds = true) :
    Fails said Step.isBinding ↔ (said.all fun x => x.2.ok) = false := by
  rw [List.all_eq_false]
  constructor
  · rintro ⟨x, hx, -, hok⟩
    exact ⟨x, hx, by rw [hok]; decide⟩
  · rintro ⟨x, hx, hok⟩
    exact ⟨x, hx, (Step.kinds_of_binds (hbinds x hx)).right.right.left,
      Bool.eq_false_iff.mpr hok⟩

section Binds

variable (hbinds : forall x, x ∈ said -> x.1.binds = true)

include hbinds

theorem not_fails_binds {kind : Step -> Bool}
    (hkind : forall step, step.binds = true -> kind step = false) :
    ¬Fails said kind :=
  not_fails_of_all fun x hx => hkind x.1 (hbinds x hx)

theorem effects_executed (h : (effects autoCommit d).releases = 0)
    (query : List Char) (inputs : List Nat) (a : Answer) :
    effects autoCommit (d ++ said ++ [(Step.execute query inputs, a)]) =
      ({ (effects autoCommit d) with
        bound := (effects autoCommit d).bound && said.all fun x =>
          x.2.ok } : Effects).apply (Step.execute query inputs, a) := by
  rw [effects_append, effects_append, Effects.foldl_binds h hbinds]
  rw [List.foldl_cons, List.foldl_nil, Effects.step, Effects.use_of_held]
  exact h

theorem Progress.fail (h : Progress autoCommit count d) (b : DbQueryBinding)
    (query : List Char) (inputs : List Nat) {a : Answer} (ha : a.ok = false)
    {status : Talk} (hstatus : forall x, x ∈ status ->
      x.1.isParamStatus = true) (a' : Answer) (inputNumber : Nat) :
    TellsPersisted autoCommit inputNumber
        ⟨some false, d ++ said ++ [(Step.execute query inputs, a)] ++ status ++
          [(Step.releaseWithError, a')], b⟩ ↔
      NoTrouble autoCommit (d ++ said ++ [(Step.execute query inputs, a)] ++
        status ++ [(Step.releaseWithError, a')]) := by
  have heffects : effects autoCommit (d ++ said ++
      [(Step.execute query inputs, a)] ++ status ++
        [(Step.releaseWithError, a')]) =
        { (effects autoCommit d) with
          bound := true
          wellBound := false
          uncommitted := false
          releases := 1 } := by
    have hexecuted : effects autoCommit (d ++ said ++
        [(Step.execute query inputs, a)]) =
          { (effects autoCommit d) with
            bound := true
            wellBound := false } := by
      rw [effects_executed hbinds h.releases]
      simp [Effects.apply, ha]
    rw [effects_append, effects_append, hexecuted,
      Effects.foldl_statuses (by exact h.releases) rfl hstatus]
    simp [Effects.step, Effects.apply, Effects.use, h.releases]
  have hreports := fun {kind : Step -> Bool}
    (hkind : forall step, step.isParamStatus = true -> kind step = false) =>
      not_fails_of_all (d := status) fun x hx => hkind x.1 (hstatus x hx)
  have hstatusRuns : ¬Succeeds status Step.isExecute := not_succeeds_of_all
    fun x hx => (Step.kinds_of_isParamStatus (hstatus x hx)).right.left
  have hsaid := fun {kind : Step -> Bool}
    (hkind : forall step, step.binds = true -> kind step = false) =>
      not_fails_binds hbinds hkind
  have hnone : ¬Succeeds said Step.isExecute := not_succeeds_of_all
    fun x hx => (Step.kinds_of_binds (hbinds x hx)).right.left
  have hexecute : Fails (d ++ said ++ [(Step.execute query inputs, a)] ++
      status ++ [(Step.releaseWithError, a')]) Step.isExecute := by
    simp [fails_append, fails_cons, Step.isExecute, ha]
  constructor
  · intro hp
    have hcommitted := hp.nothing rfl
    rw [heffects] at hcommitted
    have hcount : (effects autoCommit d).autoCommit = true ->
        ¬0 < count := by
      intro hauto hpos
      have heq := h.committed
      rw [hauto, decide_eq_true hpos] at heq
      rw [heq] at hcommitted
      cases hcommitted
    constructor
    · simp [fails_append, fails_cons, not_fails_nil, Step.isGetColumnNum,
        h.columns, hsaid fun step hstep =>
          (Step.kinds_of_binds hstep).right.right.right.right.right.left,
        hreports fun step hstep =>
          (Step.kinds_of_isParamStatus hstep).right.right.right.right.left]
    · simp [fails_append, fails_cons, not_fails_nil, Step.isGetData, h.data,
        hsaid fun step hstep =>
          (Step.kinds_of_binds hstep).right.right.right.right.right.right,
        hreports fun step hstep =>
          (Step.kinds_of_isParamStatus hstep).right.right.right.right.right]
    · simp [fails_append, fails_cons, not_fails_nil, Step.isEndTransaction,
        h.ended, hsaid fun step hstep =>
          (Step.kinds_of_binds hstep).right.right.right.left,
        hreports fun step hstep =>
          (Step.kinds_of_isParamStatus hstep).right.right.left]
    · exact fun _ => hexecute
    · intro _ hown hset hsucceeds
      have hset : Fails d Step.isSetAutoCommit := by
        simpa [fails_append, fails_cons, not_fails_nil, Step.isSetAutoCommit,
          hsaid fun step hstep =>
            (Step.kinds_of_binds hstep).right.right.right.right.left,
          hreports fun step hstep =>
            (Step.kinds_of_isParamStatus hstep).right.right.right.left]
          using hset
      have hsucceeds : Succeeds d Step.isExecute := by
        simpa [succeeds_append, succeeds_cons, not_succeeds_nil,
          Step.isExecute, ha, hnone, hstatusRuns] using hsucceeds
      exact hcount (h.byItself.mpr ⟨hown, hset⟩) (h.succeeded.mp hsucceeds)
  · intro hn
    constructor
    · intro hresult
      cases hresult
    · constructor
      · intro hresult
        cases hresult
      · rintro ⟨-, htransaction⟩
        rw [heffects] at htransaction
        exact absurd (h.transaction.symm.trans htransaction) (by decide)
    · intro _
      rw [heffects]
      change (effects autoCommit d).committed = false
      rw [h.committed, Bool.and_eq_false_iff]
      cases hauto : (effects autoCommit d).autoCommit with
      | false => exact Or.inl rfl
      | true =>
          rcases h.byItself.mp hauto with ⟨hown, hset⟩
          have hran := hn.byItself hexecute hown
            (by simp [fails_append, hset])
          apply Or.inr
          apply decide_eq_false
          intro hpos
          apply hran
          simp [succeeds_append, h.succeeded.mpr hpos]
    · intro _
      rw [heffects]
    · intro hnot
      apply absurd _ hnot
      simp [succeeds_append, h.obtained]
    · rw [heffects]
      exact h.misused

theorem Progress.execute (h : Progress autoCommit count d)
    (query : List Char) {insertNumber : Nat} (hpos : 0 < insertNumber)
    {a : Answer} (ha : a.ok = true) :
    Progress autoCommit (count + insertNumber) (d ++ said ++
      [(Step.execute query ((List.range insertNumber).map fun dataIndex =>
        count + dataIndex), a)]) := by
  have hsaid := fun {kind : Step -> Bool}
    (hkind : forall step, step.binds = true -> kind step = false) =>
      not_fails_binds hbinds hkind
  have heffects := effects_executed hbinds h.releases query
    ((List.range insertNumber).map fun dataIndex => count + dataIndex) a
  rw [Effects.apply, h.bound, Bool.true_and] at heffects
  simp only [ha, if_true] at heffects
  have hbinding : Fails (d ++ said ++ [(Step.execute query ((List.range
      insertNumber).map fun dataIndex => count + dataIndex), a)])
        Step.isBinding ↔ Fails d Step.isBinding ∨
          (said.all fun x => x.2.ok) = false := by
    simp [fails_append, fails_cons, not_fails_nil, Step.isBinding,
      fails_binding_iff hbinds]
  constructor
  · simp [succeeds_append, h.obtained]
  · rw [heffects]
  · rw [heffects]
    intro input hinput
    change input ∈ (if (said.all fun x => x.2.ok) = true then _ else _)
      at hinput
    split at hinput
    · rcases List.mem_append.mp hinput with hold | hnew
      · exact Nat.lt_add_right _ (h.below input hold)
      · rcases List.mem_map.mp hnew with ⟨dataIndex, hmem, heq⟩
        rw [← heq]
        exact Nat.add_lt_add_left (List.mem_range.mp hmem) count
    · exact Nat.lt_add_right _ (h.below input hinput)
  · rw [heffects, hbinding, not_or, ← h.executed]
    cases hall : said.all fun x => x.2.ok with
    | true =>
        rw [if_pos rfl]
        constructor
        · intro hexecuted
          refine ⟨?_, by decide⟩
          intro input hinput
          rcases List.mem_append.mp
            (hexecuted input (Nat.lt_add_right _ hinput)) with hold | hnew
          · exact hold
          · rcases List.mem_map.mp hnew with ⟨dataIndex, -, heq⟩
            lia
        · rintro ⟨hold, -⟩ input hinput
          by_cases hlt : input < count
          · exact List.mem_append_left _ (hold input hlt)
          · apply List.mem_append_right
            apply List.mem_map.mpr
            exact ⟨input - count, List.mem_range.mpr (by lia), by lia⟩
    | false =>
        rw [if_neg (by decide)]
        constructor
        · intro hexecuted
          have hnext := h.below count
            (hexecuted count (Nat.lt_add_of_pos_right hpos))
          exact absurd hnext (Nat.lt_irrefl count)
        · rintro ⟨-, hfalse⟩
          exact absurd rfl hfalse
  · rw [heffects]
    change ((effects autoCommit d).committed ||
      (effects autoCommit d).autoCommit) = _
    rw [h.committed, decide_eq_true (Nat.add_pos_right count hpos)]
    cases (effects autoCommit d).autoCommit <;> simp
  · rw [heffects]
    exact h.transaction
  · rw [heffects]
    exact h.releases
  · rw [heffects]
    exact h.misused
  · simp [fails_append, fails_cons, not_fails_nil, Step.isGetColumnNum,
      h.columns, hsaid fun step hstep =>
        (Step.kinds_of_binds hstep).right.right.right.right.right.left]
  · simp [fails_append, fails_cons, not_fails_nil, Step.isGetData, h.data,
      hsaid fun step hstep =>
        (Step.kinds_of_binds hstep).right.right.right.right.right.right]
  · simp [fails_append, fails_cons, not_fails_nil, Step.isEndTransaction,
      h.ended, hsaid fun step hstep =>
        (Step.kinds_of_binds hstep).right.right.right.left]
  · simp [fails_append, fails_cons, not_fails_nil, ha, h.failed,
      hsaid fun step hstep => (Step.kinds_of_binds hstep).right.left]
  · simp [succeeds_append, succeeds_cons, Step.isExecute, ha]
    lia
  · rw [heffects]
    simp [fails_append, fails_cons, not_fails_nil, Step.isSetAutoCommit,
      h.byItself, hsaid fun step hstep =>
        (Step.kinds_of_binds hstep).right.right.right.right.left]

end Binds

theorem Progress.reads (h : Progress autoCommit count d)
    (hreads : forall x, x ∈ said -> x.1.reads = true)
    (hcolumns : ¬Fails said Step.isGetColumnNum)
    (hdata : ¬Fails said Step.isGetData) :
    Progress autoCommit count (d ++ said) := by
  have heffects : effects autoCommit (d ++ said) = effects autoCommit d := by
    rw [effects_append, Effects.foldl_reads h.releases hreads]
  have hfails := fun {kind : Step -> Bool}
    (hkind : forall step, step.reads = true -> kind step = false) =>
      not_fails_of_all (d := said) fun x hx => hkind x.1 (hreads x hx)
  have hsucceeds : ¬Succeeds said Step.isExecute := not_succeeds_of_all
    fun x hx => (Step.kinds_of_reads (hreads x hx)).right.left
  constructor
  · exact succeeds_append.mpr (Or.inl h.obtained)
  · rw [heffects]
    exact h.bound
  · rw [heffects]
    exact h.below
  · simp [heffects, fails_append, h.executed, hfails fun step hstep =>
      (Step.kinds_of_reads hstep).right.right.left]
  · rw [heffects]
    exact h.committed
  · rw [heffects]
    exact h.transaction
  · rw [heffects]
    exact h.releases
  · rw [heffects]
    exact h.misused
  · simp [fails_append, h.columns, hcolumns]
  · simp [fails_append, h.data, hdata]
  · simp [fails_append, h.ended, hfails fun step hstep =>
      (Step.kinds_of_reads hstep).right.right.right.left]
  · simp [fails_append, h.failed, hfails fun step hstep =>
      (Step.kinds_of_reads hstep).right.left]
  · simp [succeeds_append, h.succeeded, hsucceeds]
  · simp [heffects, fails_append, h.byItself, hfails fun step hstep =>
      (Step.kinds_of_reads hstep).right.right.right.right]

end Endings

end Database
end Rzu
