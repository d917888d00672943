import Mathlib.Data.List.Nodup
import Rzu.Database.Effects
import Rzu.Database.InsertBatches

/-!
# What the result of a query tells

The result of a query tells what the database has kept, and the connection is
given back once, unless certain steps fail.
-/

namespace Rzu
namespace Database

open Library

/-!
## Result sets
-/

/-- A part of a dialogue that reads, and whether it has retrieved its data. -/
structure Reading (good : Bool) (said : Talk) : Prop where
  reads : forall x, x ∈ said -> x.1.reads = true
  columns : ¬Fails said Step.isGetColumnNum
  data : good = true ↔ ¬Fails said Step.isGetData

namespace Reading

theorem nil : Reading true [] where
  reads := by
    intro x hx
    cases hx
  columns := not_fails_nil
  data := ⟨fun _ => not_fails_nil, fun _ => rfl⟩

theorem append {good good' : Bool} {said said' : Talk}
    (h : Reading good said) (h' : Reading good' said') :
    Reading (good && good') (said ++ said') where
  reads := by
    intro x hx
    rcases List.mem_append.mp hx with hx | hx
    · exact h.reads x hx
    · exact h'.reads x hx
  columns := by
    rw [fails_append, not_or]
    exact ⟨h.columns, h'.columns⟩
  data := by
    rw [fails_append, not_or, Bool.and_eq_true, h.data, h'.data]

theorem quiet {step : Step} (hreads : step.reads = true)
    (hcolumns : step.isGetColumnNum = false)
    (hdata : step.isGetData = false) (a : Answer) :
    Reading true [(step, a)] where
  reads := by
    intro x hx
    rw [List.mem_singleton.mp hx]
    exact hreads
  columns := by
    simp [fails_cons, not_fails_nil, hcolumns]
  data := by
    simp [fails_cons, not_fails_nil, hdata]

theorem getData (column : Nat) (a : Answer) :
    Reading a.ok [(Step.getData column, a)] where
  reads := by
    intro x hx
    rw [List.mem_singleton.mp hx]
    rfl
  columns := by
    simp [fails_cons, not_fails_nil, Step.isGetColumnNum]
  data := by
    simp [fails_cons, not_fails_nil, Step.isGetData]

end Reading

theorem Progress.close {autoCommit : Bool} {count : Nat} {d : Talk}
    (h : Progress autoCommit count d) (a : Answer) :
    Progress autoCommit count (d ++ [(Step.closeCursor, a)]) := by
  have hclose : Reading true [(Step.closeCursor, a)] :=
    Reading.quiet rfl rfl rfl a
  exact h.reads hclose.reads hclose.columns (hclose.data.mp rfl)

namespace DbQueryBinding

variable (s : Surroundings)

theorem ask_eq (d : Talk) (step : Step) :
    s.ask d step = d ++ [(step, s.answer d step)] := rfl

theorem foldl_reading {α β : Type} (f : β × Talk -> α -> β × Talk)
    (good : β -> Bool) (d : Talk)
    (hf : forall (row : β × Talk) (x : α) (before : Talk),
      row.2 = d ++ before -> Reading (good row.1) before ->
        exists said, (f row x).2 = d ++ said ∧
          Reading (good (f row x).1) said) :
    forall (xs : List α) (row : β × Talk) (before : Talk),
      row.2 = d ++ before -> Reading (good row.1) before ->
        exists said, (xs.foldl f row).2 = d ++ said ∧
          Reading (good (xs.foldl f row).1) said := by
  intro xs
  induction xs with
  | nil =>
      intro row before heq hread
      exact ⟨before, heq, hread⟩
  | cons x xs ih =>
      intro row before heq hread
      rcases hf row x before heq hread with ⟨said, hsaid, hreadSaid⟩
      exact ih (f row x) said hsaid hreadSaid

theorem getRow_reading (current : List (Option ColumnBinding)) (d : Talk) :
    exists said, (getRow s current d).2 = d ++ said ∧
      Reading (getRow s current d).1 said := by
  refine foldl_reading _ id d ?_ current.zipIdx (true, d) []
    (List.append_nil d).symm Reading.nil
  intro row column before heq hread
  rcases column with ⟨columnBinding, col⟩
  cases columnBinding with
  | none => exact ⟨before, heq, hread⟩
  | some columnBinding =>
      refine ⟨before ++ [(Step.getData (col + 1),
        s.answer row.2 (Step.getData (col + 1)))], ?_,
        hread.append (Reading.getData _ _)⟩
      change s.ask row.2 (Step.getData (col + 1)) = _
      rw [ask_eq, heq, List.append_assoc]

theorem fetchRows_reading (mode : ExecuteMode)
    (current : List (Option ColumnBinding)) (left : Nat) (first good : Bool)
    (d : Talk) :
    exists said good', (fetchRows s mode current left first good d).2 =
        d ++ said ∧
      (fetchRows s mode current left first good d).1 = (good && good') ∧
      Reading good' said ∧ exists a, (Step.fetch, a) ∈ said := by
  induction left generalizing first good d with
  | zero =>
      exact ⟨_, true, rfl, (Bool.and_true good).symm,
        Reading.quiet rfl rfl rfl _, _, List.mem_singleton_self _⟩
  | succ left ih =>
      have hfetch : Reading true [(Step.fetch, ⟨true, 0, []⟩)] :=
        Reading.quiet rfl rfl rfl _
      have hmem : forall said : Talk, (Step.fetch, (⟨true, 0, []⟩ : Answer)) ∈
          [(Step.fetch, ⟨true, 0, []⟩)] ++ said := fun said =>
        List.mem_append_left _ (List.mem_singleton_self _)
      rw [fetchRows]
      split
      · split
        · rcases ih false good (d ++ [(Step.fetch, ⟨true, 0, []⟩)]) with
            ⟨said, good', heq, hgood, hread, -⟩
          have hread := hfetch.append hread
          rw [Bool.true_and] at hread
          refine ⟨_, good', ?_, hgood, hread, _, hmem said⟩
          rw [heq, List.append_assoc]
        · rcases getRow_reading s current (d ++ [(Step.fetch, ⟨true, 0, []⟩)])
            with ⟨row, hrow, hreadRow⟩
          have hdone : Reading true [(Step.onRowDone,
              s.answer (getRow s current (d ++
                [(Step.fetch, ⟨true, 0, []⟩)])).2 Step.onRowDone)] :=
            Reading.quiet rfl rfl rfl _
          have hread := (hfetch.append hreadRow).append hdone
          rw [Bool.true_and, Bool.and_true] at hread
          dsimp only
          split
          · rcases ih false (good && (getRow s current (d ++
              [(Step.fetch, ⟨true, 0, []⟩)])).1) (s.ask (getRow s current
                (d ++ [(Step.fetch, ⟨true, 0, []⟩)])).2 Step.onRowDone) with
              ⟨said, good', heq, hgood, hread', -⟩
            refine ⟨_, _, ?_, ?_, hread.append hread', _,
              List.mem_append_left _ (List.mem_append_left _ (hmem row))⟩
            · rw [heq, ask_eq, hrow]
              simp only [List.append_assoc]
            · rw [hgood, Bool.and_assoc]
          · refine ⟨_, _, ?_, rfl, hread, _,
              List.mem_append_left _ (hmem row)⟩
            rw [ask_eq, hrow]
            simp only [List.append_assoc]
      · exact ⟨_, true, rfl, (Bool.and_true good).symm, hfetch, _,
          List.mem_singleton_self _⟩

theorem getColumnNames_reading (columnCount : Nat) (d : Talk) :
    exists said, (getColumnNames s columnCount d).2 = d ++ said ∧
      Reading true said := by
  refine foldl_reading _ (fun _ => true) d ?_ (List.range columnCount) ([], d)
    [] (List.append_nil d).symm Reading.nil
  intro columns col before heq hread
  refine ⟨before ++ [(Step.getColumnName (col + 1),
    s.answer columns.2 (Step.getColumnName (col + 1)))], ?_,
    hread.append (Reading.quiet rfl rfl rfl _)⟩
  change s.ask columns.2 (Step.getColumnName (col + 1)) = _
  rw [ask_eq, heq, List.append_assoc]

variable (b : DbQueryBinding)

theorem retrieve_cases (d : Talk) :
    exists said, (b.retrieve s d).2 = d ++ said ∧
      (Reading (b.retrieve s d).1 said ∨
        Fails said Step.isGetColumnNum ∧
          forall e : Effects, (said.foldl Effects.step e).misused = true) := by
  by_cases hmode : b.mode = ExecuteMode.noRow
  · rw [retrieve, if_pos hmode]
    exact ⟨[], (List.append_nil d).symm, Or.inl Reading.nil⟩
  · rw [retrieve, if_neg hmode]
    dsimp only
    rcases fetchRows_reading s b.mode (b.getColumnsMapping s d).current
      (s.rows (b.getColumnsMapping s d).said) true true
      (b.getColumnsMapping s d).said with
      ⟨said, good, hsaid, hgood, hread, a, hfetch⟩
    rw [Bool.true_and] at hgood
    rw [hsaid, hgood]
    cases hok : (s.answer d Step.getColumnNum).ok with
    | true =>
        rcases getColumnNames_reading s (s.answer d Step.getColumnNum).number
          (s.ask d Step.getColumnNum) with ⟨names, hnames, hreadNames⟩
        have hcolumns : (b.getColumnsMapping s d).said =
            d ++ [(Step.getColumnNum, s.answer d Step.getColumnNum)] ++
              names := by
          rw [getColumnsMapping, if_pos hok]
          exact hnames
        have hnumber : Reading true
            [(Step.getColumnNum, s.answer d Step.getColumnNum)] := by
          refine ⟨?_, ?_, ?_⟩
          · intro x hx
            rw [List.mem_singleton.mp hx]
            rfl
          · simp [fails_cons, not_fails_nil, hok]
          · simp [fails_cons, not_fails_nil, Step.isGetData]
        have hread := (hnumber.append hreadNames).append hread
        rw [Bool.true_and, Bool.true_and] at hread
        refine ⟨_, ?_, Or.inl hread⟩
        rw [hcolumns]
        simp only [List.append_assoc]
    | false =>
        have hcolumns : (b.getColumnsMapping s d).said =
            d ++ [(Step.getColumnNum, s.answer d Step.getColumnNum),
              (Step.releaseWithError, s.answer (s.ask d Step.getColumnNum)
                Step.releaseWithError)] := by
          rw [getColumnsMapping, if_neg (by rw [hok]; decide)]
          exact List.append_assoc _ _ _
        refine ⟨_, by rw [hcolumns, List.append_assoc], Or.inr ⟨?_, ?_⟩⟩
        · simp [fails_cons, Step.isGetColumnNum, hok]
        · intro e
          rw [List.foldl_append]
          exact Effects.misused_of_use (Nat.succ_pos _) hfetch rfl

/-!
## The loops
-/

theorem askAll_eq (d : Talk) (steps : List Step) :
    exists said, s.askAll d steps = d ++ said ∧ said.map Prod.fst = steps :=
  askAll_said steps

theorem askAll_binds (d : Talk) {steps : List Step}
    (h : forall step, step ∈ steps -> step.binds = true) :
    exists said, s.askAll d steps = d ++ said ∧
      forall x, x ∈ said -> x.1.binds = true := by
  rcases askAll_eq s d steps with ⟨said, heq, hsteps⟩
  refine ⟨said, heq, ?_⟩
  intro x hx
  apply h
  rw [← hsteps]
  exact List.mem_map_of_mem hx

theorem bindings_binds (input offset : Nat) :
    forall step, step ∈ b.bindings input offset -> step.binds = true := by
  intro step hstep
  rcases List.mem_map.mp hstep with ⟨paramBinding, -, heq⟩
  rw [← heq]
  rfl

theorem batchBindings_binds (first insertNumber : Nat) :
    forall step, step ∈ b.batchBindings first insertNumber ->
      step.binds = true := by
  intro step hstep
  rcases List.mem_flatMap.mp hstep with ⟨dataIndex, -, hmem⟩
  exact bindings_binds b _ _ step hmem

theorem executeInputs_extends (left input : Nat) (d : Talk) :
    exists said, (b.executeInputs s left input d).2.1 = d ++ said := by
  induction left generalizing b input d with
  | zero =>
      rcases askAll_eq s d [Step.endTransaction true, Step.release] with
        ⟨said, heq, -⟩
      exact ⟨said, heq⟩
  | succ left ih =>
      rw [executeInputs]
      rcases askAll_eq s d (b.bindings input 0) with ⟨bound, hbound, -⟩
      rcases retrieve_cases s b (s.ask (s.askAll d (b.bindings input 0))
        (Step.execute b.query [input])) with ⟨row, hrow, -⟩
      dsimp only
      split
      · split
        · rcases ih b.mappingTried (input + 1) (s.ask (b.retrieve s (s.ask
            (s.askAll d (b.bindings input 0))
              (Step.execute b.query [input]))).2 Step.closeCursor) with
            ⟨said, heq⟩
          rw [heq, ask_eq, hrow, ask_eq, hbound]
          simp only [List.append_assoc]
          exact ⟨_, rfl⟩
        · rcases askAll_eq s (s.ask (b.retrieve s (s.ask
            (s.askAll d (b.bindings input 0))
              (Step.execute b.query [input]))).2 Step.closeCursor)
            [Step.endTransaction false, Step.release] with ⟨said, heq, -⟩
          rw [heq, ask_eq, hrow, ask_eq, hbound]
          simp only [List.append_assoc]
          exact ⟨_, rfl⟩
      · rw [ask_eq, ask_eq, hbound]
        simp only [List.append_assoc]
        exact ⟨_, rfl⟩

variable {s} {b} {autoCommit : Bool}

theorem not_tells_of_misused {inputNumber : Nat} {p : Processed}
    (h : (effects autoCommit p.said).misused = true) :
    ¬TellsPersisted autoCommit inputNumber p := by
  intro hp
  rw [hp.unused] at h
  cases h

theorem tells_iff_of_lost {inputNumber : Nat} {d said later : Talk}
    (hcolumns : Fails said Step.isGetColumnNum)
    (hmisused : forall e : Effects,
      (said.foldl Effects.step e).misused = true) {p : Processed}
    (heq : p.said = d ++ said ++ later) :
    TellsPersisted autoCommit inputNumber p ↔ NoTrouble autoCommit p.said := by
  have hnot : ¬TellsPersisted autoCommit inputNumber p := by
    apply not_tells_of_misused
    rw [heq, effects_append, effects_append]
    exact Effects.misused_foldl (hmisused _) later
  have htrouble : ¬NoTrouble autoCommit p.said := by
    intro hn
    apply hn.columns
    rw [heq]
    exact fails_append.mpr (Or.inl (fails_append.mpr (Or.inr hcolumns)))
  exact ⟨fun hp => absurd hp hnot, fun hn => absurd hn htrouble⟩

theorem executeInputs_iff (left input : Nat) {d : Talk}
    (h : Progress autoCommit input d) :
    TellsPersisted autoCommit (input + left)
        ⟨some (b.executeInputs s left input d).1,
          (b.executeInputs s left input d).2.1,
          (b.executeInputs s left input d).2.2⟩ ↔
      NoTrouble autoCommit (b.executeInputs s left input d).2.1 := by
  induction left generalizing b input d with
  | zero =>
      have hsaid : (b.executeInputs s 0 input d).2.1 =
          d ++ [(Step.endTransaction true, s.answer d
            (Step.endTransaction true)), (Step.release, s.answer (s.ask d
              (Step.endTransaction true)) Step.release)] :=
        List.append_assoc _ _ _
      rw [hsaid]
      exact h.commit b _ _
  | succ left ih =>
      rcases askAll_binds s d (bindings_binds b input 0) with
        ⟨bound, hbound, hbinds⟩
      rw [executeInputs, hbound]
      dsimp only
      cases hok : (s.answer (d ++ bound)
        (Step.execute b.query [input])).ok with
      | false =>
          rw [if_neg (by decide)]
          have hnone : forall x : Step × Answer, x ∈ ([] : Talk) ->
              x.1.isParamStatus = true := fun x hx =>
            absurd hx List.not_mem_nil
          have hfail := h.fail hbinds b.countError b.query [input] hok hnone
            (s.answer (s.ask (d ++ bound) (Step.execute b.query [input]))
              Step.releaseWithError) (input + (left + 1))
          rw [List.append_nil] at hfail
          exact hfail
      | true =>
          rw [if_pos rfl]
          have hexecuted : Progress autoCommit (input + 1)
              (s.ask (d ++ bound) (Step.execute b.query [input])) :=
            h.execute hbinds b.query Nat.one_pos hok
          generalize s.ask (d ++ bound) (Step.execute b.query [input]) = d
            at hexecuted
          have hclose : forall before : Talk, Reading true
              [(Step.closeCursor, s.answer before Step.closeCursor)] :=
            fun before => Reading.quiet rfl rfl rfl _
          rcases retrieve_cases s b d with
            ⟨row, hrow, hread | ⟨hcolumns, hmisused⟩⟩
          · have hall := hread.append (hclose (d ++ row))
            rw [Bool.and_true] at hall
            rw [hrow, ask_eq, List.append_assoc]
            cases hgood : (b.retrieve s d).1 with
            | true =>
                rw [if_pos rfl]
                have hnext := hexecuted.reads hall.reads hall.columns
                  (hall.data.mp hgood)
                have hiff := ih (b := b.mappingTried) (input + 1) hnext
                rw [Nat.add_assoc, Nat.add_comm 1 left] at hiff
                exact hiff
            | false =>
                rw [if_neg (by decide)]
                have hdata : Fails (row ++ [(Step.closeCursor,
                    s.answer (d ++ row) Step.closeCursor)]) Step.isGetData := by
                  apply Classical.byContradiction
                  intro hnot
                  rw [hall.data.mpr hnot] at hgood
                  cases hgood
                have hsaid : forall before : Talk, s.askAll before
                    [Step.endTransaction false, Step.release] = before ++
                      [(Step.endTransaction false, s.answer before
                        (Step.endTransaction false)), (Step.release, s.answer
                          (s.ask before (Step.endTransaction false))
                            Step.release)] :=
                  fun before => List.append_assoc _ _ _
                rw [hsaid]
                exact hexecuted.rollback b.mappingTried hall.reads hdata _ _ _
          · rw [hrow]
            split
            · rcases executeInputs_extends s b.mappingTried left (input + 1)
                (s.ask (d ++ row) Step.closeCursor) with ⟨later, hlater⟩
              rw [ask_eq, List.append_assoc (d ++ row)] at hlater
              exact tells_iff_of_lost hcolumns hmisused hlater
            · rcases askAll_eq s (s.ask (d ++ row) Step.closeCursor)
                [Step.endTransaction false, Step.release] with
                ⟨later, hlater, -⟩
              rw [ask_eq, List.append_assoc (d ++ row)] at hlater
              exact tells_iff_of_lost hcolumns hmisused hlater

theorem executeBatches_iff {inputNumber batchSize : Nat} (hpos : 0 < batchSize)
    (left batchIndex : Nat) (query : List Char)
    (hleft : batchIndex + left = (inputNumber + batchSize - 1) / batchSize)
    {d : Talk}
    (h : Progress autoCommit (min inputNumber (batchIndex * batchSize)) d) :
    TellsPersisted autoCommit inputNumber
        ⟨some (b.executeBatches s inputNumber batchSize left batchIndex
            query d).1,
          (b.executeBatches s inputNumber batchSize left batchIndex
            query d).2.1,
          (b.executeBatches s inputNumber batchSize left batchIndex
            query d).2.2⟩ ↔
      NoTrouble autoCommit (b.executeBatches s inputNumber batchSize left
        batchIndex query d).2.1 := by
  induction left generalizing batchIndex query d with
  | zero =>
      have hall : min inputNumber (batchIndex * batchSize) = inputNumber := by
        apply Nat.min_eq_left
        have hmod := Nat.div_add_mod (inputNumber + batchSize - 1) batchSize
        have hlt := Nat.mod_lt (inputNumber + batchSize - 1) hpos
        rw [← hleft, Nat.add_zero, Nat.mul_comm] at hmod
        lia
      rw [hall] at h
      have hsaid : (b.executeBatches s inputNumber batchSize 0 batchIndex
          query d).2.1 =
          d ++ [(Step.endTransaction true, s.answer d
            (Step.endTransaction true)), (Step.release, s.answer (s.ask d
              (Step.endTransaction true)) Step.release)] :=
        List.append_assoc _ _ _
      rw [hsaid]
      exact h.commit b _ _
  | succ left ih =>
      have hlt : batchIndex * batchSize < inputNumber := by
        have hmul : (batchIndex + 1) * batchSize ≤
            inputNumber + batchSize - 1 :=
          (Nat.le_div_iff_mul_le hpos).mp (by lia)
        rw [Nat.succ_mul] at hmul
        lia
      rw [Nat.min_eq_right (Nat.le_of_lt hlt)] at h
      rcases askAll_binds s d (batchBindings_binds b (batchIndex * batchSize)
        (insertNumber inputNumber batchSize batchIndex)) with
        ⟨bound, hbound, hbinds⟩
      rw [executeBatches, insertNumber_eq, hbound]
      generalize (if inputNumber - batchIndex * batchSize ≥ batchSize then
        query else b.createBatchedInsertQuery (insertNumber inputNumber
          batchSize batchIndex)) = text
      cases hok : (s.answer (d ++ bound) (Step.execute text ((List.range
          (insertNumber inputNumber batchSize batchIndex)).map fun dataIndex =>
            batchIndex * batchSize + dataIndex))).ok with
      | false =>
          rw [if_neg (by decide)]
          have hnone : forall x : Step × Answer, x ∈ ([] : Talk) ->
              x.1.isParamStatus = true := fun x hx =>
            absurd hx List.not_mem_nil
          have hfail := h.fail hbinds b.countError text ((List.range
            (insertNumber inputNumber batchSize batchIndex)).map
              fun dataIndex => batchIndex * batchSize + dataIndex) hok hnone
            (s.answer (s.ask (d ++ bound) (Step.execute text ((List.range
              (insertNumber inputNumber batchSize batchIndex)).map
                fun dataIndex => batchIndex * batchSize + dataIndex)))
              Step.releaseWithError) inputNumber
          rw [List.append_nil] at hfail
          exact hfail
      | true =>
          rw [if_pos rfl]
          have hnumber : 0 < insertNumber inputNumber batchSize batchIndex := by
            rw [insertNumber]
            lia
          have hexecuted := h.execute hbinds text hnumber hok
          have hcount : batchIndex * batchSize +
              insertNumber inputNumber batchSize batchIndex =
                min inputNumber ((batchIndex + 1) * batchSize) := by
            rw [insertNumber, Nat.succ_mul]
            lia
          rw [hcount] at hexecuted
          exact ih (batchIndex + 1) text (by lia) (hexecuted.close _)

theorem progress_begin (autoCommit : Bool) (query : List Char) {a : Answer} (ha : a.ok = true)
    (a' : Answer) :
    Progress autoCommit 0
      [(Step.getConnection query, a), (Step.setAutoCommit false, a')] := by
  have heffects : effects autoCommit
      [(Step.getConnection query, a), (Step.setAutoCommit false, a')] =
        { Effects.initial autoCommit with
          autoCommit := if a'.ok then false else autoCommit } := rfl
  constructor
  · simp [succeeds_cons, Step.isGetConnection, ha]
  · rfl
  · intro input hinput
    cases hinput
  · simp [fails_cons, not_fails_nil, Step.isBinding]
  · rw [heffects]
    simp [Effects.initial]
  · rfl
  · rfl
  · rfl
  · simp [fails_cons, not_fails_nil, Step.isGetColumnNum]
  · simp [fails_cons, not_fails_nil, Step.isGetData]
  · simp [fails_cons, not_fails_nil, Step.isEndTransaction]
  · simp [fails_cons, not_fails_nil, Step.isExecute]
  · simp [succeeds_cons, not_succeeds_nil, Step.isExecute]
  · rw [heffects]
    cases hok : a'.ok <;>
      simp [fails_cons, not_fails_nil, Step.isSetAutoCommit, hok]

/-!
## The array of inputs
-/

/-- The inputs of an array that are executed are those whose status says so. -/
theorem foldl_array {e : Effects} (h : e.releases = 0)
    (hbound : e.wellBound = true) {d : Talk}
    (hstatus : forall x, x ∈ d -> x.1.isParamStatus = true) :
    exists inputs, d.foldl Effects.step e =
        { e with executed := e.executed ++ inputs } ∧
      forall input, input ∈ inputs ↔
        exists a, (Step.paramStatus input, a) ∈ d ∧ a.ok = true := by
  induction d generalizing e with
  | nil =>
      refine ⟨[], ?_, ?_⟩
      · rw [List.append_nil]
        rfl
      · intro input
        simp
  | cons x d ih =>
      rcases x with ⟨step, answer⟩
      have hx := hstatus (step, answer) List.mem_cons_self
      cases step with
      | paramStatus input =>
          have hfirst : e.step (Step.paramStatus input, answer) =
              { e with
                executed := e.executed ++ if answer.ok then [input] else [] } := by
            rw [Effects.step, Effects.use_of_held h, Effects.apply]
            dsimp only
            rw [hbound]
            cases answer.ok <;> simp
          rcases ih (e := { e with
            executed := e.executed ++ if answer.ok then [input] else [] }) h
            hbound (fun x hx => hstatus x (List.mem_cons_of_mem _ hx)) with
            ⟨inputs, heq, hmem⟩
          refine ⟨(if answer.ok then [input] else []) ++ inputs, ?_, ?_⟩
          · rw [List.foldl_cons, hfirst, heq]
            simp only [List.append_assoc]
          · intro other
            rw [List.mem_append, hmem]
            constructor
            · rintro (hhere | ⟨a, ha, hok⟩)
              · cases hok : answer.ok with
                | true =>
                    rw [hok, if_pos rfl, List.mem_singleton] at hhere
                    rw [hhere]
                    exact ⟨answer, List.mem_cons_self, hok⟩
                | false =>
                    rw [hok, if_neg (by decide)] at hhere
                    cases hhere
              · exact ⟨a, List.mem_cons_of_mem _ ha, hok⟩
            · rintro ⟨a, ha, hok⟩
              rcases List.mem_cons.mp ha with heq | hlater
              · cases heq
                rw [if_pos hok]
                exact Or.inl (List.mem_singleton_self _)
              · exact Or.inr ⟨a, hlater, hok⟩
      | getColumnNum | getColumnName | fetch | getData | onRowDone
      | closeCursor | getConnection | setAutoCommit | setAttribute
      | bindParameter | execute | endTransaction | release
      | releaseWithError => cases hx

section Status

variable {status : Talk} {inputNumber : Nat}
  (hsteps : status.map Prod.fst =
    (List.range inputNumber).map Step.paramStatus)

include hsteps

theorem status_input {x : Step × Answer} (hx : x ∈ status) :
    exists input, input < inputNumber ∧ x.1 = Step.paramStatus input := by
  have hmapped : x.1 ∈ (List.range inputNumber).map Step.paramStatus := by
    rw [← hsteps]
    exact List.mem_map_of_mem hx
  rcases List.mem_map.mp hmapped with ⟨input, hinput, heq⟩
  exact ⟨input, List.mem_range.mp hinput, heq.symm⟩

theorem status_iff :
    (forall input, input < inputNumber ->
      exists a, (Step.paramStatus input, a) ∈ status ∧ a.ok = true) ↔
        ¬Fails status Step.isBinding := by
  constructor
  · intro hinputs
    rintro ⟨⟨step, answer⟩, hx, -, hok⟩
    rcases status_input hsteps hx with ⟨input, hinput, heq⟩
    change step = _ at heq
    subst heq
    rcases hinputs input hinput with ⟨a, ha, hok'⟩
    have hnodup : (status.map Prod.fst).Nodup := by
      rw [hsteps]
      refine List.Nodup.map ?_ List.nodup_range
      intro i j hij
      exact Step.paramStatus.inj hij
    have hsame := List.inj_on_of_nodup_map hnodup hx ha rfl
    cases hsame
    rw [hok] at hok'
    cases hok'
  · intro hnone input hinput
    have hmapped : Step.paramStatus input ∈ status.map Prod.fst := by
      rw [hsteps]
      exact List.mem_map_of_mem (List.mem_range.mpr hinput)
    rcases List.mem_map.mp hmapped with ⟨⟨step, answer⟩, hx, heq⟩
    change step = _ at heq
    subst heq
    refine ⟨answer, hx, ?_⟩
    cases hok : answer.ok with
    | true => rfl
    | false => exact absurd ⟨_, hx, rfl, hok⟩ hnone

end Status

/-- The array has been executed, whatever has become of its inputs. -/
theorem progress_array {d said status : Talk}
    (h : Progress autoCommit 0 d)
    (hbinds : forall x, x ∈ said -> x.1.binds = true) (query : List Char)
    {inputNumber : Nat} (hpos : 0 < inputNumber) {a : Answer}
    (ha : a.ok = true)
    (hsteps : status.map Prod.fst =
      (List.range inputNumber).map Step.paramStatus) :
    Progress autoCommit inputNumber
      (d ++ said ++ [(Step.execute query [], a)] ++ status) := by
  have hstatus : forall x, x ∈ status -> x.1.isParamStatus = true := by
    intro x hx
    rcases status_input hsteps hx with ⟨input, -, heq⟩
    rw [heq]
    rfl
  have hempty : (effects autoCommit d).executed = [] := by
    apply List.eq_nil_iff_forall_not_mem.mpr
    intro input hinput
    exact Nat.not_lt_zero _ (h.below input hinput)
  have hexecuted := effects_executed hbinds h.releases query [] a
  rw [Effects.apply, h.bound, Bool.true_and] at hexecuted
  simp only [ha, if_true, List.append_nil, ite_self, hempty] at hexecuted
  have hall : exists inputs, effects autoCommit
      (d ++ said ++ [(Step.execute query [], a)] ++ status) =
        { effects autoCommit (d ++ said ++ [(Step.execute query [], a)]) with
          executed := inputs } ∧
      (forall input, input ∈ inputs -> input < inputNumber) ∧
      ((forall input, input < inputNumber -> input ∈ inputs) ↔
        (said.all fun x => x.2.ok) = true ∧ ¬Fails status Step.isBinding) := by
    have hreleases : (effects autoCommit
        (d ++ said ++ [(Step.execute query [], a)])).releases = 0 := by
      rw [hexecuted]
      exact h.releases
    have hnone : (effects autoCommit
        (d ++ said ++ [(Step.execute query [], a)])).executed = [] := by
      rw [hexecuted]
    have hwell : (effects autoCommit
        (d ++ said ++ [(Step.execute query [], a)])).wellBound =
          said.all fun x => x.2.ok := by
      rw [hexecuted]
    rw [effects_append]
    generalize effects autoCommit (d ++ said ++ [(Step.execute query [], a)]) =
      e at hreleases hnone hwell
    cases hbound : said.all fun x => x.2.ok with
    | false =>
        rw [Effects.foldl_statuses hreleases (hwell.trans hbound) hstatus]
        refine ⟨[], ?_, ?_, ?_⟩
        · rw [← hnone]
        · intro input hinput
          cases hinput
        · constructor
          · intro hinputs
            cases hinputs 0 hpos
          · rintro ⟨hfalse, -⟩
            cases hfalse
    | true =>
        rcases foldl_array hreleases (hwell.trans hbound) hstatus with
          ⟨inputs, heq, hmem⟩
        rw [heq, hnone, List.nil_append]
        refine ⟨inputs, rfl, ?_, ?_⟩
        · intro input hinput
          rcases (hmem input).mp hinput with ⟨a, ha, -⟩
          rcases status_input hsteps ha with ⟨other, hother, heq⟩
          cases heq
          exact hother
        · rw [← status_iff hsteps]
          constructor
          · intro hinputs
            refine ⟨rfl, ?_⟩
            intro input hinput
            exact (hmem input).mp (hinputs input hinput)
          · rintro ⟨-, hinputs⟩ input hinput
            exact (hmem input).mpr (hinputs input hinput)
  rcases hall with ⟨inputs, heffects, hbelow, hinputs⟩
  rw [hexecuted] at heffects
  have hsaid := fun {kind : Step -> Bool}
    (hkind : forall step, step.binds = true -> kind step = false) =>
      not_fails_binds hbinds hkind
  have hreports := fun {kind : Step -> Bool}
    (hkind : forall step, step.isParamStatus = true -> kind step = false) =>
      not_fails_of_all (d := status) fun x hx => hkind x.1 (hstatus x hx)
  constructor
  · simp [succeeds_append, h.obtained]
  · rw [heffects]
  · rw [heffects]
    exact hbelow
  · rw [heffects]
    simp [hinputs, fails_append, fails_cons, Step.isBinding,
      h.executed.mp fun input hinput => absurd hinput (Nat.not_lt_zero input),
      fails_binding_iff hbinds]
  · rw [heffects]
    change ((effects autoCommit d).committed ||
      (effects autoCommit d).autoCommit) = _
    rw [h.committed, decide_eq_true hpos]
    simp
  · rw [heffects]
    exact h.transaction
  · rw [heffects]
    exact h.releases
  · rw [heffects]
    exact h.misused
  · simp [fails_append, fails_cons, Step.isGetColumnNum,
      h.columns, hsaid fun step hstep =>
        (Step.kinds_of_binds hstep).right.right.right.right.right.left,
      hreports fun step hstep =>
        (Step.kinds_of_isParamStatus hstep).right.right.right.right.left]
  · simp [fails_append, fails_cons, Step.isGetData, h.data,
      hsaid fun step hstep =>
        (Step.kinds_of_binds hstep).right.right.right.right.right.right,
      hreports fun step hstep =>
        (Step.kinds_of_isParamStatus hstep).right.right.right.right.right]
  · simp [fails_append, fails_cons, Step.isEndTransaction,
      h.ended, hsaid fun step hstep =>
        (Step.kinds_of_binds hstep).right.right.right.left,
      hreports fun step hstep =>
        (Step.kinds_of_isParamStatus hstep).right.right.left]
  · simp [fails_append, fails_cons, ha, h.failed,
      hsaid fun step hstep => (Step.kinds_of_binds hstep).right.left,
      hreports fun step hstep =>
        (Step.kinds_of_isParamStatus hstep).right.left]
  · simp [succeeds_append, succeeds_cons, Step.isExecute, ha, hpos]
  · rw [heffects]
    simp [fails_append, fails_cons, Step.isSetAutoCommit,
      h.byItself, hsaid fun step hstep =>
        (Step.kinds_of_binds hstep).right.right.right.right.left,
      hreports fun step hstep =>
        (Step.kinds_of_isParamStatus hstep).right.right.right.left]

/-!
## The query
-/

theorem refused_tells (autoCommit : Bool) (b : DbQueryBinding) (query : List Char) {a : Answer}
    (ha : a.ok = false) (inputNumber : Nat) :
    TellsPersisted autoCommit inputNumber
        ⟨some false, [(Step.getConnection query, a)], b⟩ ∧
      NoTrouble autoCommit [(Step.getConnection query, a)] := by
  constructor
  · constructor
    · intro hresult
      cases hresult
    · constructor
      · intro hresult
        cases hresult
      · rintro ⟨-, htransaction⟩
        cases htransaction
    · intro _
      rfl
    · intro hobtained
      simp [succeeds_cons, not_succeeds_nil, ha] at hobtained
    · intro _
      rfl
    · rfl
  · constructor
    · simp [fails_cons, not_fails_nil, Step.isGetColumnNum]
    · simp [fails_cons, not_fails_nil, Step.isGetData]
    · simp [fails_cons, not_fails_nil, Step.isEndTransaction]
    · simp [fails_cons, not_fails_nil, Step.isBinding]
    · simp [fails_cons, not_fails_nil, Step.isExecute]

/-- An insert has parameters, and not more than a statement can have. -/
def InsertFits (b : DbQueryBinding) : Prop :=
  1 ≤ b.parameterBindings.length ∧
    b.parameterBindings.length ≤ MAX_BOUND_PARAMETER_NUMBER

theorem insertFits_iff {inputNumber : Nat} (hinputs : inputNumber ≠ 0) :
    b.InsertFits ↔ ¬(b.parameterBindings.length = 0 ∨
      (if inputNumber > MAX_BOUND_PARAMETER_NUMBER /
          b.parameterBindings.length then
        MAX_BOUND_PARAMETER_NUMBER / b.parameterBindings.length
        else inputNumber) = 0) := by
  have hsome : 1 ≤ b.parameterBindings.length ↔
      ¬b.parameterBindings.length = 0 := Nat.pos_iff_ne_zero
  rw [InsertFits, not_or, ← hsome]
  apply and_congr_right
  intro hpos
  have hdiv : b.parameterBindings.length ≤ MAX_BOUND_PARAMETER_NUMBER ↔
      0 < MAX_BOUND_PARAMETER_NUMBER / b.parameterBindings.length := by
    rw [Nat.div_pos_iff]
    exact ⟨fun hle => ⟨hpos, hle⟩, fun h => h.right⟩
  rw [hdiv]
  split
  · exact Nat.pos_iff_ne_zero
  · rename_i hle
    constructor
    · intro _
      exact hinputs
    · intro _
      exact Nat.lt_of_lt_of_le (Nat.pos_of_ne_zero hinputs)
        (Nat.le_of_not_lt hle)

theorem processInserts_iff {inputNumber : Nat} (hinputs : inputNumber ≠ 0) :
    TellsPersisted autoCommit inputNumber (b.processInserts s inputNumber) ↔
      b.InsertFits ∧
        NoTrouble autoCommit (b.processInserts s inputNumber).said := by
  rw [insertFits_iff hinputs, processInserts]
  dsimp only
  generalize (if inputNumber > MAX_BOUND_PARAMETER_NUMBER /
      b.parameterBindings.length then
    MAX_BOUND_PARAMETER_NUMBER / b.parameterBindings.length
    else inputNumber) = batchSize
  by_cases htraps : b.parameterBindings.length = 0 ∨ batchSize = 0
  · rw [if_pos htraps]
    constructor
    · intro hp
      exact absurd rfl hp.returns
    · rintro ⟨hnot, -⟩
      exact absurd htraps hnot
  · rw [if_neg htraps]
    have hsize : 0 < batchSize := Nat.pos_of_ne_zero fun hzero =>
      htraps (Or.inr hzero)
    cases hok : (s.answer [] (Step.getConnection
        (b.createBatchedInsertQuery batchSize))).ok with
    | false =>
        rw [if_neg (by decide)]
        have hrefused := refused_tells autoCommit b
          (b.createBatchedInsertQuery batchSize) hok inputNumber
        exact ⟨fun _ => ⟨htraps, hrefused.right⟩, fun _ => hrefused.left⟩
    | true =>
        rw [if_pos rfl]
        have hbegin := progress_begin autoCommit
          (b.createBatchedInsertQuery batchSize) hok (s.answer (s.ask []
            (Step.getConnection (b.createBatchedInsertQuery batchSize)))
              (Step.setAutoCommit false))
        have hzero : min inputNumber (0 * batchSize) = 0 := by
          rw [Nat.zero_mul, Nat.min_zero]
        rw [← hzero] at hbegin
        have hiff := executeBatches_iff (s := s) (b := b) hsize
          ((inputNumber + batchSize - 1) / batchSize) 0
          (b.createBatchedInsertQuery batchSize) (Nat.zero_add _) hbegin
        exact ⟨fun hp => ⟨htraps, hiff.mp hp⟩, fun hn => hiff.mpr hn.right⟩

theorem processBatch_iff {inputNumber : Nat} (hinputs : inputNumber ≠ 0) :
    TellsPersisted autoCommit inputNumber (b.processBatch s inputNumber) ↔
      NoTrouble autoCommit (b.processBatch s inputNumber).said := by
  rw [processBatch]
  dsimp only
  cases hok : (s.answer [] (Step.getConnection b.query)).ok with
  | false =>
      rw [if_neg (by decide)]
      have hrefused := refused_tells autoCommit b b.query hok
        inputNumber
      exact ⟨fun _ => hrefused.right, fun _ => hrefused.left⟩
  | true =>
      rw [if_pos rfl]
      have hbegin := progress_begin autoCommit b.query hok
        (s.answer (s.ask [] (Step.getConnection b.query))
          (Step.setAutoCommit false))
      have hattributes : forall step,
          step ∈ arrayAttributes ++ b.bindings 0 0 -> step.binds = true := by
        intro step hstep
        rcases List.mem_append.mp hstep with hstep | hstep
        · rw [arrayAttributes] at hstep
          simp only [List.mem_cons, List.not_mem_nil, or_false] at hstep
          rcases hstep with heq | heq | heq | heq
          · rw [heq]
            rfl
          · rw [heq]
            rfl
          · rw [heq]
            rfl
          · rw [heq]
            rfl
        · exact bindings_binds b 0 0 step hstep
      rcases askAll_binds s (s.ask (s.ask [] (Step.getConnection b.query))
        (Step.setAutoCommit false)) hattributes with ⟨said, hsaid, hbinds⟩
      have hfirst : s.askAll (s.ask [] (Step.getConnection b.query))
          (Step.setAutoCommit false :: (arrayAttributes ++ b.bindings 0 0)) =
            [(Step.getConnection b.query, s.answer []
              (Step.getConnection b.query)), (Step.setAutoCommit false,
                s.answer (s.ask [] (Step.getConnection b.query))
                  (Step.setAutoCommit false))] ++ said := hsaid
      rw [hfirst]
      generalize [(Step.getConnection b.query, s.answer []
        (Step.getConnection b.query)), (Step.setAutoCommit false,
          s.answer (s.ask [] (Step.getConnection b.query))
            (Step.setAutoCommit false))] = d at hbegin
      rcases askAll_eq s (s.ask (d ++ said) (Step.execute b.query []))
        ((List.range inputNumber).map Step.paramStatus) with
        ⟨status, hstatus, hsteps⟩
      rw [hstatus, ask_eq]
      cases hexecute : (s.answer (d ++ said)
          (Step.execute b.query [])).ok with
      | false =>
          rw [if_neg (by decide)]
          have hreports : forall x, x ∈ status ->
              x.1.isParamStatus = true := by
            intro x hx
            rcases status_input hsteps hx with ⟨input, -, heq⟩
            rw [heq]
            rfl
          exact hbegin.fail hbinds b.countError b.query [] hexecute hreports _
            inputNumber
      | true =>
          rw [if_pos rfl]
          have harray := (progress_array hbegin hbinds b.query
            (Nat.pos_of_ne_zero hinputs) hexecute hsteps).close
          have hend : forall before : Talk, s.askAll before
              [Step.closeCursor, Step.endTransaction true, Step.release] =
              before ++ [(Step.closeCursor, s.answer before
                Step.closeCursor)] ++ [(Step.endTransaction true, s.answer
                  (s.ask before Step.closeCursor) (Step.endTransaction true)),
                (Step.release, s.answer (s.ask (s.ask before Step.closeCursor)
                  (Step.endTransaction true)) Step.release)] := by
            intro before
            exact List.append_assoc _ _ _
          rw [hend]
          exact (harray _).commit b _ _

/--
The result tells what has been kept exactly if the query is disabled, or there
are inputs, an insert fits, and no step fails that must not.
-/
theorem tellsPersisted_iff (autoCommit : Bool) (b : DbQueryBinding)
    (s : Surroundings) (inputNumber : Nat) :
    TellsPersisted autoCommit inputNumber (b.process s inputNumber) ↔
      b.enabled = false ∨
        inputNumber ≠ 0 ∧
          (b.mode = ExecuteMode.insert -> b.InsertFits) ∧
            NoTrouble autoCommit (b.process s inputNumber).said := by
  rw [process]
  by_cases henabled : b.enabled = false
  · rw [if_pos henabled]
    refine ⟨fun _ => Or.inl henabled, ?_⟩
    intro _
    constructor
    · intro hresult
      cases hresult
    · constructor
      · intro hresult
        cases hresult
      · rintro ⟨-, htransaction⟩
        cases htransaction
    · intro _
      rfl
    · intro hobtained
      exact absurd hobtained not_succeeds_nil
    · intro _
      rfl
    · rfl
  · rw [if_neg henabled]
    by_cases hinputs : inputNumber = 0
    · rw [if_pos hinputs]
      constructor
      · intro hp
        rcases hp.persisted.mp rfl with ⟨-, htransaction⟩
        cases htransaction
      · rintro (hdisabled | ⟨hsome, -⟩)
        · exact absurd hdisabled henabled
        · exact absurd hinputs hsome
    · rw [if_neg hinputs]
      have hrest : (b.enabled = false ∨ inputNumber ≠ 0 ∧
          (b.mode = ExecuteMode.insert -> b.InsertFits) ∧
            NoTrouble autoCommit (b.process s inputNumber).said) ↔
          (b.mode = ExecuteMode.insert -> b.InsertFits) ∧
            NoTrouble autoCommit (b.process s inputNumber).said := by
        constructor
        · rintro (hdisabled | ⟨-, hn⟩)
          · exact absurd hdisabled henabled
          · exact hn
        · exact fun hn => Or.inr ⟨hinputs, hn⟩
      rw [process, if_neg henabled, if_neg hinputs] at hrest
      rw [hrest]
      by_cases hinsert : b.mode = ExecuteMode.insert
      · rw [if_pos hinsert, processInserts_iff hinputs]
        exact and_congr_left fun _ => ⟨fun hfits _ => hfits,
          fun hfits => hfits hinsert⟩
      · have hvacuous : (b.mode = ExecuteMode.insert -> b.InsertFits) ↔
            True := ⟨fun _ => trivial, fun _ hmode => absurd hmode hinsert⟩
        rw [if_neg hinsert, hvacuous, true_and]
        split
        · exact processBatch_iff hinputs
        · dsimp only
          cases hok : (s.answer [] (Step.getConnection b.query)).ok with
          | false =>
              rw [if_neg (by decide)]
              have hrefused := refused_tells autoCommit b b.query hok
                inputNumber
              exact ⟨fun _ => hrefused.right, fun _ => hrefused.left⟩
          | true =>
              rw [if_pos rfl]
              have hbegin := progress_begin autoCommit b.query hok
                (s.answer (s.ask [] (Step.getConnection b.query))
                  (Step.setAutoCommit false))
              have hiff := executeInputs_iff (s := s) (b := b) inputNumber 0
                hbegin
              rw [Nat.zero_add] at hiff
              exact hiff

end DbQueryBinding

/-- A query that returns one row with one column. -/
def selectId : DbQueryBinding where
  enabled := true
  query := "select id from t where k = ?".toList
  parameterBindings := [⟨1, DbValueType.primitive⟩]
  columnBindings := [⟨"id".toList⟩]
  mode := ExecuteMode.oneRow
  errorCount := 0
  columnMappingErrorsShown := false

/-- The row is there, and its data cannot be retrieved. -/
def noData : Surroundings where
  answer _ step := ⟨!step.isGetData, 1, "id".toList⟩
  rows _ := 1

/-- The transaction is rolled back, and the result is that all is well. -/
theorem not_tellsPersisted_noData :
    ¬forall autoCommit b s inputNumber, TellsPersisted autoCommit inputNumber
      (DbQueryBinding.process b s inputNumber) := by
  intro h
  have hp := h false selectId noData 1
  have hcommitted := (hp.persisted.mp (by decide)).right
  exact absurd hcommitted (by decide)

end Database
end Rzu
