import Rzu.Library.Dialogue

/-!
# Queries to a database

A query is executed once for each of its inputs, or for batches of them, in one
transaction.  Every call to the database may fail.
-/

namespace Rzu
namespace Database

open Library

inductive DbValueType where
  | primitive
  | stdString
  | dbString
deriving DecidableEq

/-- The index is configured, and is not positive if the query has no use. -/
structure ParameterBinding where
  index : Int
  isStdString : DbValueType
deriving DecidableEq

structure ColumnBinding where
  name : List Char
deriving DecidableEq

inductive ExecuteMode where
  | noRow
  | oneRow
  | multiRows
  | insert
deriving DecidableEq

structure DbQueryBinding where
  enabled : Bool
  query : List Char
  parameterBindings : List ParameterBinding
  columnBindings : List ColumnBinding
  mode : ExecuteMode
  errorCount : Nat
  columnMappingErrorsShown : Bool
deriving DecidableEq

inductive Attribute where
  | paramBindType
  | paramsetSize
  | paramStatusPtr
  | paramsProcessedPtr
deriving DecidableEq

/--
What `process` asks of the database and of the job.  An execution tells which
inputs the statement is for.
-/
inductive Step where
  | getConnection (wantedQuery : List Char)
  | setAutoCommit (enable : Bool)
  | setAttribute (changed : Attribute)
  | bindParameter (ipar input parameter : Nat)
  | execute (query : List Char) (inputs : List Nat)
  | paramStatus (input : Nat)
  | getColumnNum
  | getColumnName (column : Nat)
  | fetch
  | getData (column : Nat)
  | onRowDone
  | closeCursor
  | endTransaction (commit : Bool)
  | release
  | releaseWithError
deriving DecidableEq

/-- A step succeeds or not, and some tell more. -/
structure Answer where
  ok : Bool
  number : Nat
  name : List Char
deriving DecidableEq

abbrev Talk := Dialogue Step Answer

/-- What answers, and how many rows a result set has before it ends or fails. -/
structure Surroundings where
  answer : Oracle Step Answer
  rows : Talk -> Nat

namespace Surroundings

def ask (s : Surroundings) (d : Talk) (step : Step) : Talk :=
  Library.ask s.answer d step

def askAll (s : Surroundings) (d : Talk) (steps : List Step) : Talk :=
  Library.askAll s.answer d steps

end Surroundings

/-- What `process` returns, nothing if it divides by zero. -/
structure Processed where
  result : Option Bool
  said : Talk
  binding : DbQueryBinding

namespace DbQueryBinding

/-- After too many errors the query is disabled. -/
def countError (b : DbQueryBinding) : DbQueryBinding :=
  if b.errorCount + 1 > 100 then { b with enabled := false, errorCount := 0 }
  else { b with errorCount := b.errorCount + 1 }

def activeParameters (b : DbQueryBinding) : List (ParameterBinding × Nat) :=
  b.parameterBindings.zipIdx.filter fun paramBinding =>
    paramBinding.1.index > 0

/-- The cast of the index to `SQLUSMALLINT`. -/
def parameterNumber (paramBinding : ParameterBinding) (offset : Nat) : Nat :=
  (paramBinding.index + offset).toNat % 65536

/-- The steps that bind the parameters of one input. -/
def bindings (b : DbQueryBinding) (input offset : Nat) : List Step :=
  b.activeParameters.map fun paramBinding =>
    Step.bindParameter (parameterNumber paramBinding.1 offset) input
      paramBinding.2

/-!
## Columns
-/

/-- A later binding replaces an earlier one of the same column. -/
def mapColumn (columnNames : List (List Char))
    (current : List (Option ColumnBinding)) (columnBinding : ColumnBinding) :
    List (Option ColumnBinding) :=
  match columnNames.findIdx? fun name => name = columnBinding.name with
  | some col => current.set col (some columnBinding)
  | none => current

structure Columns where
  current : List (Option ColumnBinding)
  result : Bool
  said : Talk

def getColumnNames (s : Surroundings) (columnCount : Nat) (d : Talk) :
    List (List Char) × Talk :=
  (List.range columnCount).foldl (fun columns col =>
    (columns.1 ++ [(s.answer columns.2 (Step.getColumnName (col + 1))).name],
      s.ask columns.2 (Step.getColumnName (col + 1)))) ([], d)

def getColumnsMapping (b : DbQueryBinding) (s : Surroundings) (d : Talk) :
    Columns :=
  let showErrors := b.columnMappingErrorsShown = false
  let columnNum := s.answer d Step.getColumnNum
  let d := s.ask d Step.getColumnNum
  if columnNum.ok then
    let columns := getColumnNames s columnNum.number d
    { current := b.columnBindings.foldl (mapColumn columns.1)
        (List.replicate columns.1.length none)
      result := !(b.columnBindings.any fun columnBinding =>
        !columns.1.contains columnBinding.name && showErrors)
      said := columns.2 }
  else
    { current := []
      result := false
      said := s.ask d Step.releaseWithError }

/-!
## Rows
-/

/-- Whether the data of a row has been retrieved, and what has been asked. -/
def getRow (s : Surroundings) (current : List (Option ColumnBinding))
    (d : Talk) : Bool × Talk :=
  current.zipIdx.foldl (fun row column =>
    match column.1 with
    | some _ =>
        (row.1 && (s.answer row.2 (Step.getData (column.2 + 1))).ok,
          s.ask row.2 (Step.getData (column.2 + 1)))
    | none => row) (true, d)

/--
There are `left` rows to fetch.  The first is read, and the others if the query
returns many.
-/
def fetchRows (s : Surroundings) (mode : ExecuteMode)
    (current : List (Option ColumnBinding)) :
    Nat -> Bool -> Bool -> Talk -> Bool × Talk
  | 0, _, good, d => (good, d ++ [(Step.fetch, ⟨false, 0, []⟩)])
  | left + 1, first, good, d =>
      let d := d ++ [(Step.fetch, ⟨true, 0, []⟩)]
      if first || mode = ExecuteMode.multiRows then
        if current.isEmpty then fetchRows s mode current left false good d
        else
          let row := getRow s current d
          let more := (s.answer row.2 Step.onRowDone).ok
          let d := s.ask row.2 Step.onRowDone
          if more then
            fetchRows s mode current left false (good && row.1) d
          else (good && row.1, d)
      else (good, d)

/-!
## One execution for each input
-/

/-- The result set of an execution; the result of the mapping is not used. -/
def retrieve (b : DbQueryBinding) (s : Surroundings) (d : Talk) :
    Bool × Talk :=
  if b.mode = ExecuteMode.noRow then (true, d)
  else
    let columns := b.getColumnsMapping s d
    fetchRows s b.mode columns.current (s.rows columns.said) true true
      columns.said

/-- After the mapping of columns has been tried once. -/
def mappingTried (b : DbQueryBinding) : DbQueryBinding :=
  if b.mode = ExecuteMode.noRow then b
  else { b with columnMappingErrorsShown := true }

/--
The loop over the inputs, `left` of which have not been executed yet, and what
follows it.  The loop ends early when data could not be retrieved.
-/
def executeInputs (b : DbQueryBinding) (s : Surroundings) :
    Nat -> Nat -> Talk -> Bool × Talk × DbQueryBinding
  | 0, _, d => (true, s.askAll d [Step.endTransaction true, Step.release], b)
  | left + 1, input, d =>
      let d := s.askAll d (b.bindings input 0)
      let executed := s.answer d (Step.execute b.query [input])
      let d := s.ask d (Step.execute b.query [input])
      if executed.ok then
        let row := b.retrieve s d
        let d := s.ask row.2 Step.closeCursor
        if row.1 then executeInputs b.mappingTried s left (input + 1) d
        else (true, s.askAll d [Step.endTransaction false, Step.release],
          b.mappingTried)
      else (false, s.ask d Step.releaseWithError, b.countError)

/-!
## Batches of inputs in one statement
-/

/-- What `Utils::stringFormat` makes of a message with strings to fill in. -/
def stringFormat (argument : List Char) : List Char -> List Char
  | '%' :: '%' :: message => '%' :: stringFormat argument message
  | '%' :: 's' :: message => argument ++ stringFormat argument message
  | c :: message => c :: stringFormat argument message
  | [] => []

/-- `(?,?,?)` -/
def rowPlaceholders (parameterNumber : Nat) : List Char :=
  ['('] ++ ((List.range parameterNumber).flatMap fun parameterIndex =>
    if parameterIndex = 0 then ['?'] else [',', '?']) ++ [')']

def valuesPlaceholders (parameterNumber batchSize : Nat) : List Char :=
  (List.range batchSize).flatMap fun batchIndex =>
    rowPlaceholders parameterNumber ++
      if batchIndex < batchSize - 1 then [',', '\n'] else []

def createBatchedInsertQuery (b : DbQueryBinding) (batchSize : Nat) :
    List Char :=
  stringFormat (valuesPlaceholders b.parameterBindings.length batchSize)
    b.query

def MAX_BOUND_PARAMETER_NUMBER : Nat := (30000 - 6) / 4

def batchBindings (b : DbQueryBinding) (first insertNumber : Nat) :
    List Step :=
  (List.range insertNumber).flatMap fun dataIndex =>
    b.bindings (first + dataIndex) (dataIndex * b.activeParameters.length)

/-- The loop over the batches, `left` of which have not been executed yet. -/
def executeBatches (b : DbQueryBinding) (s : Surroundings)
    (inputNumber batchSize : Nat) :
    Nat -> Nat -> List Char -> Talk -> Bool × Talk × DbQueryBinding
  | 0, _, _, d => (true, s.askAll d [Step.endTransaction true, Step.release], b)
  | left + 1, batchIndex, queryStrBatched, d =>
      let remaining := inputNumber - batchIndex * batchSize
      let insertNumber := if remaining ≥ batchSize then batchSize else remaining
      let queryStrBatched :=
        if remaining ≥ batchSize then queryStrBatched
        else b.createBatchedInsertQuery insertNumber
      let first := batchIndex * batchSize
      let d := s.askAll d (b.batchBindings first insertNumber)
      let step := Step.execute queryStrBatched
        ((List.range insertNumber).map fun dataIndex => first + dataIndex)
      let executed := s.answer d step
      let d := s.ask d step
      if executed.ok then
        executeBatches b s inputNumber batchSize left (batchIndex + 1)
          queryStrBatched (s.ask d Step.closeCursor)
      else (false, s.ask d Step.releaseWithError, b.countError)

def processInserts (b : DbQueryBinding) (s : Surroundings)
    (inputNumber : Nat) : Processed :=
  let maxBatchSize := MAX_BOUND_PARAMETER_NUMBER / b.parameterBindings.length
  let batchSize :=
    if inputNumber > maxBatchSize then maxBatchSize else inputNumber
  -- both divisions of the source trap when the divisor is zero
  if b.parameterBindings.length = 0 ∨ batchSize = 0 then ⟨none, [], b⟩
  else
    let batchNumber := (inputNumber + batchSize - 1) / batchSize
    let queryStrBatched := b.createBatchedInsertQuery batchSize
    let step := Step.getConnection queryStrBatched
    let d := s.ask [] step
    if (s.answer [] step).ok then
      let done := executeBatches b s inputNumber batchSize batchNumber 0
        queryStrBatched (s.ask d (Step.setAutoCommit false))
      ⟨some done.1, done.2.1, done.2.2⟩
    else ⟨some false, d, b⟩

/-!
## One execution for an array of inputs
-/

def arrayAttributes : List Step :=
  [Step.setAttribute Attribute.paramBindType,
    Step.setAttribute Attribute.paramsetSize,
    Step.setAttribute Attribute.paramStatusPtr,
    Step.setAttribute Attribute.paramsProcessedPtr]

/-- The first row is bound, and the status of every row is only logged. -/
def processBatch (b : DbQueryBinding) (s : Surroundings)
    (inputNumber : Nat) : Processed :=
  let step := Step.getConnection b.query
  let d := s.ask [] step
  if (s.answer [] step).ok then
    let d := s.askAll d (Step.setAutoCommit false ::
      (arrayAttributes ++ b.bindings 0 0))
    let step := Step.execute b.query []
    let executed := s.answer d step
    let d := s.askAll (s.ask d step)
      ((List.range inputNumber).map Step.paramStatus)
    if executed.ok then
      ⟨some true, s.askAll d [Step.closeCursor, Step.endTransaction true,
        Step.release], b⟩
    else ⟨some false, s.ask d Step.releaseWithError, b.countError⟩
  else ⟨some false, d, b⟩

/-!
## Dispatch
-/

def process (b : DbQueryBinding) (s : Surroundings) (inputNumber : Nat) :
    Processed :=
  if b.enabled = false then ⟨some false, [], { b with errorCount := 0 }⟩
  else if inputNumber = 0 then ⟨some true, [], b⟩
  else if b.mode = ExecuteMode.insert then b.processInserts s inputNumber
  else if b.mode = ExecuteMode.noRow ∧ (b.parameterBindings.countP
      fun param => param.isStdString = DbValueType.stdString) = 0 then
    b.processBatch s inputNumber
  else
    let step := Step.getConnection b.query
    let d := s.ask [] step
    if (s.answer [] step).ok then
      let done := b.executeInputs s inputNumber 0
        (s.ask d (Step.setAutoCommit false))
      ⟨some done.1, done.2.1, done.2.2⟩
    else ⟨some false, d, b⟩

end DbQueryBinding

end Database
end Rzu
