import Mathlib.Data.List.Perm.Basic
import Mathlib.Algebra.Ring.Nat
import Rzu.Database.DbQueryBinding

/-!
# Inserts in batches

Many rows are inserted by one statement, as many as the number of parameters of
a statement allows.
-/

namespace Rzu
namespace Database

open Library

/-!
## The text of a statement
-/

def escape (text : List Char) : List Char :=
  text.flatMap fun c => if c = '%' then ['%', '%'] else [c]

/-- A query whose values are filled in, and that has no other parameters. -/
structure InsertQuery where
  before : List Char
  after : List Char
  noParameter : '?' ∉ before ∧ '?' ∉ after

def InsertQuery.text (q : InsertQuery) : List Char :=
  escape q.before ++ ('%' :: 's' :: escape q.after)

namespace DbQueryBinding

theorem stringFormat_escape (argument text rest : List Char) :
    stringFormat argument (escape text ++ rest) =
      text ++ stringFormat argument rest := by
  induction text with
  | nil => rfl
  | cons c text ih =>
      by_cases hc : c = '%'
      · subst hc
        change stringFormat argument ('%' :: '%' :: (escape text ++ rest)) = _
        rw [stringFormat, ih]
        rfl
      · have hescape : escape (c :: text) = c :: escape text := by
          rw [escape, List.flatMap_cons, if_neg hc]
          rfl
        rw [hescape, List.cons_append, stringFormat, ih]
        · rfl
        · intro message heq
          exact absurd heq hc
        · intro message heq
          exact absurd heq hc

theorem stringFormat_text (argument : List Char) (q : InsertQuery) :
    stringFormat argument q.text = q.before ++ (argument ++ q.after) := by
  have hafter := stringFormat_escape argument q.after []
  rw [List.append_nil, stringFormat, List.append_nil] at hafter
  rw [InsertQuery.text, stringFormat_escape, stringFormat, hafter]

theorem count_flatMap_const {α β : Type _} [BEq β] {f : α -> List β} {b : β}
    {w : Nat} {xs : List α} (h : forall x, x ∈ xs -> (f x).count b = w) :
    (xs.flatMap f).count b = xs.length * w := by
  induction xs with
  | nil => exact (Nat.zero_mul w).symm
  | cons first rest ih =>
      rw [List.flatMap_cons, List.count_append, h first List.mem_cons_self,
        ih fun x hx => h x (List.mem_cons_of_mem _ hx), List.length_cons,
        Nat.succ_mul, Nat.add_comm]

theorem count_rowPlaceholders (parameterNumber : Nat) :
    (rowPlaceholders parameterNumber).count '?' = parameterNumber := by
  rw [rowPlaceholders, List.count_append, List.count_append,
    count_flatMap_const (w := 1), List.length_range]
  · simp
  · intro parameterIndex _
    split <;> rfl

theorem count_valuesPlaceholders (parameterNumber batchSize : Nat) :
    (valuesPlaceholders parameterNumber batchSize).count '?' =
      batchSize * parameterNumber := by
  rw [valuesPlaceholders, count_flatMap_const (w := parameterNumber),
    List.length_range]
  intro batchIndex _
  rw [List.count_append, count_rowPlaceholders]
  split <;> rfl

variable {b : DbQueryBinding}

theorem count_createBatchedInsertQuery {q : InsertQuery}
    (hquery : b.query = q.text) (batchSize : Nat) :
    (b.createBatchedInsertQuery batchSize).count '?' =
      batchSize * b.parameterBindings.length := by
  rw [createBatchedInsertQuery, hquery, stringFormat_text, List.count_append,
    List.count_append, count_valuesPlaceholders,
    List.count_eq_zero_of_not_mem q.noParameter.left,
    List.count_eq_zero_of_not_mem q.noParameter.right, Nat.zero_add,
    Nat.add_zero]

end DbQueryBinding

/-!
## What is executed
-/

/-- A parameter that has been bound to what an input has for it. -/
structure Bound where
  number : Nat
  input : Nat
  parameter : Nat
deriving DecidableEq

/-- A statement that is executed, with what has been bound for it. -/
structure Statement where
  text : List Char
  inputs : List Nat
  bound : List Bound
deriving DecidableEq

def statements : List Bound -> List Step -> List Statement
  | _, [] => []
  | bound, Step.bindParameter number input parameter :: steps =>
      statements (bound ++ [⟨number, input, parameter⟩]) steps
  | bound, Step.execute text inputs :: steps =>
      ⟨text, inputs, bound⟩ :: statements [] steps
  | bound, _ :: steps => statements bound steps

def executedStatements (d : Talk) : List Statement := statements [] (d.map Prod.fst)

namespace DbQueryBinding

variable (b : DbQueryBinding)

def bounds (input offset : Nat) : List Bound :=
  b.activeParameters.map fun paramBinding =>
    ⟨parameterNumber paramBinding.1 offset, input, paramBinding.2⟩

def batchBounds (first insertNumber : Nat) : List Bound :=
  (List.range insertNumber).flatMap fun dataIndex =>
    b.bounds (first + dataIndex) (dataIndex * b.activeParameters.length)

theorem statements_bindSteps (bound new : List Bound) (steps : List Step) :
    statements bound (new.map (fun bind => Step.bindParameter bind.number
      bind.input bind.parameter) ++ steps) =
        statements (bound ++ new) steps := by
  induction new generalizing bound with
  | nil => rw [List.map_nil, List.nil_append, List.append_nil]
  | cons first rest ih =>
      rw [List.map_cons, List.cons_append, statements, ih, List.append_assoc]
      rfl

theorem batchBindings_eq (first insertNumber : Nat) :
    b.batchBindings first insertNumber =
      (b.batchBounds first insertNumber).map fun bind =>
        Step.bindParameter bind.number bind.input bind.parameter := by
  rw [batchBindings, batchBounds, List.map_flatMap]
  congr 1
  funext dataIndex
  rw [bindings, bounds, List.map_map]
  rfl

def insertNumber (inputNumber batchSize batchIndex : Nat) : Nat :=
  min batchSize (inputNumber - batchIndex * batchSize)

theorem insertNumber_eq (inputNumber batchSize batchIndex : Nat) :
    (if inputNumber - batchIndex * batchSize ≥ batchSize then batchSize
      else inputNumber - batchIndex * batchSize) =
        insertNumber inputNumber batchSize batchIndex := by
  rw [insertNumber]
  split
  · rename_i hfull
    exact (Nat.min_eq_left hfull).symm
  · rename_i hshort
    exact (Nat.min_eq_right (Nat.le_of_not_le hshort)).symm

def batch (inputNumber batchSize batchIndex : Nat) : Statement where
  text := b.createBatchedInsertQuery
    (insertNumber inputNumber batchSize batchIndex)
  inputs := (List.range (insertNumber inputNumber batchSize batchIndex)).map
    fun dataIndex => batchIndex * batchSize + dataIndex
  bound := b.batchBounds (batchIndex * batchSize)
    (insertNumber inputNumber batchSize batchIndex)

theorem statements_batch (inputNumber batchSize batchIndex : Nat)
    (steps : List Step) :
    statements [] (b.batchBindings (batchIndex * batchSize)
        (insertNumber inputNumber batchSize batchIndex) ++
      (Step.execute (b.batch inputNumber batchSize batchIndex).text
        (b.batch inputNumber batchSize batchIndex).inputs ::
          Step.closeCursor :: steps)) =
      b.batch inputNumber batchSize batchIndex :: statements [] steps := by
  rw [batchBindings_eq, statements_bindSteps, List.nil_append, statements,
    statements]
  · rfl
  · intro number input parameter heq
    cases heq
  · intro text inputs heq
    cases heq

theorem full_of_more {inputNumber batchSize batchIndex : Nat}
    (hpos : 0 < batchSize)
    (hmore : batchIndex + 1 < (inputNumber + batchSize - 1) / batchSize) :
    batchSize ≤ inputNumber - batchIndex * batchSize := by
  have hmul : (batchIndex + 2) * batchSize ≤ inputNumber + batchSize - 1 :=
    (Nat.le_div_iff_mul_le hpos).mp hmore
  rw [Nat.add_mul] at hmul
  lia

variable {b} {s : Surroundings} (hok : forall d step, (s.answer d step).ok = true)

theorem ask_steps (d : Talk) (step : Step) :
    (s.ask d step).map Prod.fst = d.map Prod.fst ++ [step] := by
  rw [Surroundings.ask, Library.ask, List.map_append]
  rfl

theorem askAll_steps (d : Talk) (steps : List Step) :
    (s.askAll d steps).map Prod.fst = d.map Prod.fst ++ steps := by
  have hsaid : exists said, s.askAll d steps = d ++ said ∧
      said.map Prod.fst = steps := askAll_said steps
  rcases hsaid with ⟨said, heq, hsteps⟩
  rw [heq, List.map_append, hsteps]

include hok

theorem executeBatches_steps {inputNumber batchSize : Nat}
    (hpos : 0 < batchSize) (left batchIndex : Nat) {query : List Char}
    (hleft : batchIndex + left = (inputNumber + batchSize - 1) / batchSize)
    (hquery : 0 < left -> query = b.createBatchedInsertQuery batchSize)
    (d : Talk) :
    exists steps,
      (b.executeBatches s inputNumber batchSize left batchIndex query d).1 =
        true ∧
      (b.executeBatches s inputNumber batchSize left batchIndex query
        d).2.1.map Prod.fst = d.map Prod.fst ++ steps ∧
      statements [] steps = (List.range' batchIndex left).map
        (b.batch inputNumber batchSize) := by
  induction left generalizing batchIndex query d with
  | zero =>
      refine ⟨_, rfl, askAll_steps d _, rfl⟩
  | succ left ih =>
      have hquery := hquery (Nat.succ_pos left)
      subst hquery
      have hnumber := insertNumber_eq inputNumber batchSize batchIndex
      have htext : (if inputNumber - batchIndex * batchSize ≥ batchSize then
          b.createBatchedInsertQuery batchSize
          else b.createBatchedInsertQuery
            (insertNumber inputNumber batchSize batchIndex)) =
            (b.batch inputNumber batchSize batchIndex).text := by
        change _ = b.createBatchedInsertQuery _
        rw [← hnumber]
        split
        · rfl
        · rfl
      have hlater : 0 < left ->
          (b.batch inputNumber batchSize batchIndex).text =
            b.createBatchedInsertQuery batchSize := by
        intro hmore
        change b.createBatchedInsertQuery _ = _
        rw [insertNumber, Nat.min_eq_left]
        exact full_of_more hpos (by lia)
      rw [executeBatches, hnumber, htext, if_pos (hok _ _)]
      rcases ih (batchIndex + 1) (by lia) hlater (s.ask _ Step.closeCursor)
        with ⟨steps, hresult, hsteps, hstatements⟩
      refine ⟨b.batchBindings (batchIndex * batchSize)
        (insertNumber inputNumber batchSize batchIndex) ++
          (Step.execute (b.batch inputNumber batchSize batchIndex).text
            (b.batch inputNumber batchSize batchIndex).inputs ::
              Step.closeCursor :: steps), hresult, ?_, ?_⟩
      · rw [hsteps, ask_steps, ask_steps, askAll_steps]
        simp only [List.append_assoc, List.singleton_append]
        rfl
      · rw [statements_batch, hstatements, List.range'_succ, List.map_cons]

omit hok

/-!
## What the batches cover
-/

theorem flatMap_windows (n size m : Nat) :
    (List.range m).flatMap (fun k =>
      (List.range (min size (n - k * size))).map fun i => k * size + i) =
      List.range (min n (m * size)) := by
  induction m with
  | zero => simp
  | succ m ih =>
      rw [List.range_succ, List.flatMap_append, ih, List.flatMap_singleton]
      by_cases hle : m * size ≤ n
      · have hsum : min n ((m + 1) * size) =
            m * size + min size (n - m * size) := by
          rw [Nat.add_mul]
          lia
        rw [Nat.min_eq_right hle, hsum, List.range_add]
      · have hnone : min size (n - m * size) = 0 := by lia
        have hall : min n ((m + 1) * size) = n := by
          rw [Nat.add_mul]
          lia
        rw [hnone, hall, Nat.min_eq_left (Nat.le_of_not_le hle)]
        exact List.append_nil _

theorem flatMap_range_mul (m size : Nat) :
    (List.range m).flatMap (fun k =>
      (List.range size).map fun i => k * size + i) =
      List.range (m * size) := by
  induction m with
  | zero => simp
  | succ m ih =>
      rw [List.range_succ, List.flatMap_append, ih, List.flatMap_singleton,
        Nat.succ_mul, List.range_add]

/-- The parameters have the indexes from one on, in whatever order. -/
def IndexesFromOne (b : DbQueryBinding) : Prop :=
  (b.parameterBindings.map ParameterBinding.index).Perm
    ((List.range b.parameterBindings.length).map fun k => Int.ofNat (k + 1))

section Bounds

variable (hindexes : b.IndexesFromOne)

include hindexes

theorem activeParameters_of_indexes :
    b.activeParameters = b.parameterBindings.zipIdx := by
  apply List.filter_eq_self.mpr
  rintro ⟨paramBinding, i⟩ hmem
  have hindex := hindexes.mem_iff.mp
    (List.mem_map_of_mem (List.fst_mem_of_mem_zipIdx hmem))
  rcases List.mem_map.mp hindex with ⟨k, -, heq⟩
  apply decide_eq_true
  change paramBinding.index > 0
  have hindex : Int.ofNat (k + 1) = paramBinding.index := heq
  lia

theorem bounds_values (input offset : Nat) :
    (b.bounds input offset).map (fun bind => (bind.input, bind.parameter)) =
      (List.range b.parameterBindings.length).map fun j => (input, j) := by
  rw [bounds, activeParameters_of_indexes hindexes, List.map_map,
    List.range_eq_range', ← List.zipIdx_map_snd, List.map_map]
  rfl

theorem bounds_numbers (input : Nat) {offset : Nat}
    (hmax : offset + b.parameterBindings.length < 65536) :
    ((b.bounds input offset).map Bound.number).Perm
      ((List.range b.parameterBindings.length).map fun k =>
        offset + k + 1) := by
  have hall : (b.bounds input offset).map Bound.number =
      (b.parameterBindings.map ParameterBinding.index).map fun index : Int =>
        (index + offset).toNat % 65536 := by
    have hfirst := List.zipIdx_map_fst 0 b.parameterBindings
    rw [bounds, activeParameters_of_indexes hindexes, List.map_map,
      List.map_map]
    conv => rhs; rw [← hfirst]
    rw [List.map_map]
    rfl
  rw [hall]
  have hperm := hindexes.map fun index : Int => (index + offset).toNat % 65536
  have hvalues : ((List.range b.parameterBindings.length).map fun k =>
      Int.ofNat (k + 1)).map (fun index : Int =>
        (index + offset).toNat % 65536) =
        (List.range b.parameterBindings.length).map fun k =>
          offset + k + 1 := by
    rw [List.map_map]
    apply List.map_congr_left
    intro k hk
    have hlt := List.mem_range.mp hk
    change (Int.ofNat (k + 1) + offset).toNat % 65536 = _
    rw [Nat.mod_eq_of_lt]
    · lia
    · lia
  rw [hvalues] at hperm
  exact hperm

theorem length_bounds (input offset : Nat) :
    (b.bounds input offset).length = b.parameterBindings.length := by
  rw [bounds, List.length_map, activeParameters_of_indexes hindexes,
    List.length_zipIdx]

theorem batchBounds_values (first insertNumber : Nat) :
    (b.batchBounds first insertNumber).map
        (fun bind => (bind.input, bind.parameter)) =
      ((List.range insertNumber).map fun dataIndex =>
        first + dataIndex).flatMap fun input =>
          (List.range b.parameterBindings.length).map fun j => (input, j) := by
  rw [batchBounds, List.map_flatMap, List.flatMap_map]
  congr 1
  funext dataIndex
  exact bounds_values hindexes _ _

theorem length_batchBounds (first insertNumber : Nat) :
    (b.batchBounds first insertNumber).length =
      insertNumber * b.parameterBindings.length := by
  have hlength : forall dataIndex, (b.bounds (first + dataIndex)
      (dataIndex * b.activeParameters.length)).length =
        b.parameterBindings.length :=
    fun dataIndex => length_bounds hindexes _ _
  rw [batchBounds, List.length_flatMap]
  simp [hlength]

theorem batchBounds_numbers (first : Nat) {insertNumber : Nat}
    (hmax : insertNumber * b.parameterBindings.length < 65536) :
    ((b.batchBounds first insertNumber).map Bound.number).Perm
      ((List.range (insertNumber * b.parameterBindings.length)).map
        (· + 1)) := by
  rw [batchBounds, List.map_flatMap, ← flatMap_range_mul, List.map_flatMap]
  apply List.Perm.flatMap_left
  intro dataIndex hmem
  have hlt := List.mem_range.mp hmem
  have hwidth : b.activeParameters.length = b.parameterBindings.length := by
    rw [activeParameters_of_indexes hindexes, List.length_zipIdx]
  rw [List.map_map, hwidth]
  apply bounds_numbers hindexes
  have hmul : (dataIndex + 1) * b.parameterBindings.length ≤
      insertNumber * b.parameterBindings.length :=
    Nat.mul_le_mul_right _ hlt
  rw [Nat.succ_mul] at hmul
  lia

end Bounds

/--
What the statements of the batches insert: every row once and in order, with as
many placeholders as there are bound parameters, and no more than are supported.
-/
structure CoversEveryRow (b : DbQueryBinding) (inputNumber : Nat)
    (inserted : List Statement) : Prop where
  inputs : inserted.flatMap Statement.inputs = List.range inputNumber
  values : inserted.flatMap (fun statement => statement.bound.map fun bind =>
      (bind.input, bind.parameter)) =
    (List.range inputNumber).flatMap fun input =>
      (List.range b.parameterBindings.length).map fun j => (input, j)
  ownValues : forall statement, statement ∈ inserted ->
    statement.bound.map (fun bind => (bind.input, bind.parameter)) =
      statement.inputs.flatMap fun input =>
        (List.range b.parameterBindings.length).map fun j => (input, j)
  numbers : forall statement, statement ∈ inserted ->
    (statement.bound.map Bound.number).Perm
      ((List.range statement.bound.length).map (· + 1))
  placeholders : forall statement, statement ∈ inserted ->
    statement.text.count '?' = statement.bound.length
  maximum : forall statement, statement ∈ inserted ->
    statement.bound.length ≤ MAX_BOUND_PARAMETER_NUMBER
  rebuilt : forall statement, statement ∈ inserted ->
    statement.text = b.createBatchedInsertQuery statement.inputs.length

theorem coversEveryRow_batches {q : InsertQuery} (hquery : b.query = q.text)
    (hindexes : b.IndexesFromOne) {inputNumber batchSize : Nat}
    (hpos : 0 < batchSize)
    (hmax : batchSize * b.parameterBindings.length ≤
      MAX_BOUND_PARAMETER_NUMBER) :
    CoversEveryRow b inputNumber
      ((List.range ((inputNumber + batchSize - 1) / batchSize)).map
        (b.batch inputNumber batchSize)) := by
  have hall : inputNumber ≤
      (inputNumber + batchSize - 1) / batchSize * batchSize := by
    have hmod := Nat.div_add_mod (inputNumber + batchSize - 1) batchSize
    have hlt := Nat.mod_lt (inputNumber + batchSize - 1) hpos
    rw [Nat.mul_comm] at hmod
    lia
  have hinputs : ((List.range
      ((inputNumber + batchSize - 1) / batchSize)).map
        (b.batch inputNumber batchSize)).flatMap Statement.inputs =
          List.range inputNumber := by
    rw [List.flatMap_map]
    have hwindows := flatMap_windows inputNumber batchSize
      ((inputNumber + batchSize - 1) / batchSize)
    rw [Nat.min_eq_left hall] at hwindows
    exact hwindows
  have hwidth : forall k, insertNumber inputNumber batchSize k *
      b.parameterBindings.length ≤ MAX_BOUND_PARAMETER_NUMBER := by
    intro k
    exact Nat.le_trans
      (Nat.mul_le_mul_right _ (Nat.min_le_left _ _)) hmax
  have hlength : forall k, (b.batch inputNumber batchSize k).bound.length =
      insertNumber inputNumber batchSize k * b.parameterBindings.length :=
    fun k => length_batchBounds hindexes _ _
  have hown : forall statement, statement ∈ (List.range
      ((inputNumber + batchSize - 1) / batchSize)).map
        (b.batch inputNumber batchSize) ->
      statement.bound.map (fun bind => (bind.input, bind.parameter)) =
        statement.inputs.flatMap fun input =>
          (List.range b.parameterBindings.length).map fun j => (input, j) := by
    intro statement hstatement
    rcases List.mem_map.mp hstatement with ⟨k, -, heq⟩
    subst heq
    exact batchBounds_values hindexes _ _
  constructor
  · exact hinputs
  · rw [← hinputs, List.flatMap_assoc]
    apply List.flatMap_congr
    exact hown
  · exact hown
  · intro statement hstatement
    rcases List.mem_map.mp hstatement with ⟨k, -, heq⟩
    subst heq
    rw [hlength]
    exact batchBounds_numbers hindexes _
      (Nat.lt_of_le_of_lt (hwidth k) (by decide))
  · intro statement hstatement
    rcases List.mem_map.mp hstatement with ⟨k, -, heq⟩
    subst heq
    rw [hlength]
    exact count_createBatchedInsertQuery hquery _
  · intro statement hstatement
    rcases List.mem_map.mp hstatement with ⟨k, -, heq⟩
    subst heq
    rw [hlength]
    exact hwidth k
  · intro statement hstatement
    rcases List.mem_map.mp hstatement with ⟨k, -, heq⟩
    subst heq
    change _ = b.createBatchedInsertQuery (List.length (List.map _ _))
    rw [List.length_map, List.length_range]
    rfl

/-- Inserts when no call to the database fails. -/
theorem processInserts_coversEveryRow {q : InsertQuery}
    (hquery : b.query = q.text) (hindexes : b.IndexesFromOne)
    (hparameters : 1 ≤ b.parameterBindings.length)
    (hmost : b.parameterBindings.length ≤ 7498)
    (hok : forall d step, (s.answer d step).ok = true) {inputNumber : Nat}
    (hinputs : 1 ≤ inputNumber) :
    (b.processInserts s inputNumber).result = some true ∧
      CoversEveryRow b inputNumber
        (executedStatements (b.processInserts s inputNumber).said) := by
  have hmaxBatch : 1 ≤ MAX_BOUND_PARAMETER_NUMBER /
      b.parameterBindings.length :=
    (Nat.le_div_iff_mul_le hparameters).mpr (by
      rw [Nat.one_mul]
      exact hmost)
  have hsize : exists batchSize,
      (if inputNumber > MAX_BOUND_PARAMETER_NUMBER /
          b.parameterBindings.length then
        MAX_BOUND_PARAMETER_NUMBER / b.parameterBindings.length
        else inputNumber) = batchSize ∧ 0 < batchSize ∧
      batchSize ≤ MAX_BOUND_PARAMETER_NUMBER /
        b.parameterBindings.length := by
    refine ⟨_, rfl, ?_, ?_⟩
    · split
      · exact hmaxBatch
      · exact hinputs
    · split
      · exact Nat.le_refl _
      · rename_i hle
        exact Nat.le_of_not_lt hle
  rcases hsize with ⟨batchSize, heq, hpos, hle⟩
  have hmax : batchSize * b.parameterBindings.length ≤
      MAX_BOUND_PARAMETER_NUMBER :=
    (Nat.le_div_iff_mul_le hparameters).mp hle
  rcases executeBatches_steps hok hpos
    ((inputNumber + batchSize - 1) / batchSize) 0 (Nat.zero_add _)
    (fun _ => rfl) (s.ask (s.ask [] (Step.getConnection
      (b.createBatchedInsertQuery batchSize))) (Step.setAutoCommit false))
    with ⟨steps, hresult, hsteps, hstatements⟩
  have htraps : ¬(b.parameterBindings.length = 0 ∨ batchSize = 0) := by
    lia
  rw [processInserts]
  simp only [heq, if_neg htraps, hok, if_true]
  constructor
  · rw [hresult]
  · rw [executedStatements, hsteps, ask_steps, ask_steps]
    change CoversEveryRow b inputNumber (statements [] steps)
    rw [hstatements, ← List.range_eq_range']
    exact coversEveryRow_batches hquery hindexes hpos hmax

end DbQueryBinding

/-- Everything succeeds. -/
def alwaysOk : Surroundings where
  answer _ _ := ⟨true, 0, []⟩
  rows _ := 0

/-- Two parameters, in the other order in the query. -/
def insertPair : DbQueryBinding where
  enabled := true
  query := "insert 100%% %s;".toList
  parameterBindings := [⟨2, DbValueType.primitive⟩, ⟨1, DbValueType.stdString⟩]
  columnBindings := []
  mode := ExecuteMode.insert
  errorCount := 0
  columnMappingErrorsShown := false

theorem insertPair_coversEveryRow :
    (insertPair.processInserts alwaysOk 3).result = some true ∧
      DbQueryBinding.CoversEveryRow insertPair 3
        (executedStatements (insertPair.processInserts alwaysOk 3).said) :=
  DbQueryBinding.processInserts_coversEveryRow (b := insertPair)
    (q := ⟨"insert 100% ".toList, ";".toList, by decide⟩) (by decide)
    (List.Perm.swap (1 : Int) 2 []) (by decide) (by decide) (fun _ _ => rfl)
    (by decide)

end Database
end Rzu
