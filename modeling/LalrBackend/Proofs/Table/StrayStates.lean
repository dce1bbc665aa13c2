import LalrBackend.Proofs.Table.Updates

/-!
# States that a table does not have

An update asks whether its symbol is one of the table, but of its state only that it leads to a
row. A state beyond both ends of the table is refused and no row changes. A negative one counts
from the last row backwards, so that the update is taken for that of the row it counts to, and
its entry lands there.
-/

namespace LalrBackend

open Table Failure

namespace Table

section Positions

variable {states : Nat} {state : Int}

theorem position?_eq_none_iff :
    position? states state = none ↔ state < -(states : Int) ∨ (states : Int) ≤ state := by
  constructor
  · intro hnone
    by_contra hwithin
    by_cases hneg : state < 0
    · rw [position?_of_neg hneg (by omega)] at hnone
      cases hnone
    · rw [position?_of_nonneg (by omega) (by omega)] at hnone
      cases hnone
  · intro hbeyond
    rw [Option.eq_none_iff_forall_ne_some]
    intro position hposition
    unfold position? at hposition
    simp only [Option.ite_none_right_eq_some] at hposition
    split at hposition <;> omega

theorem statePosition_beyond (h : state < -(states : Int) ∨ (states : Int) ≤ state) :
    statePosition states state = .error .noSuchState := by
  rw [statePosition, position?_eq_none_iff.mpr h]

/-- A negative state that does not count too far leads to a row. -/
theorem statePosition_fromEnd (hneg : state < 0) (hlow : -(states : Int) ≤ state) :
    statePosition states state = .ok (state + states).toNat := by
  rw [statePosition, position?_of_neg hneg hlow]

/-- The row that a negative state leads to is that of the state it counts to. -/
theorem statePosition_add (hneg : state < 0) (hlow : -(states : Int) ≤ state) :
    statePosition states (state + states) = statePosition states state := by
  rw [statePosition_fromEnd hneg hlow, statePosition,
    position?_of_nonneg (by omega) (by omega)]

end Positions

/-- What first looks at a symbol and then at the row of a state is refused for the state where no
row has it, if not for the symbol. -/
theorem run_looks_beyond {τ : Type} {error : Int → GeneratorError} {symbols states : Nat}
    {symbol state : Int} {next : Nat → Nat → EStateM TableError τ Unit} (table : τ)
    (h : state < -(states : Int) ∨ (states : Int) ≤ state) :
    ∃ e, (look (symbolIndex error symbols symbol) >>= fun t =>
        look (statePosition states state) >>= next t).run table = .error e table ∧
      (0 ≤ symbol ∧ symbol < symbols → e = .noSuchState) := by
  rw [run_look_bind]
  cases hsymbol : symbolIndex error symbols symbol with
  | error e =>
      refine ⟨e, rfl, fun hrange => ?_⟩
      rw [symbolIndex, if_pos hrange] at hsymbol
      cases hsymbol
  | ok t =>
      simp only [run_look_bind, statePosition_beyond h]
      exact ⟨.noSuchState, rfl, fun _ => rfl⟩

/-- How the updates with one symbol and one entry end for the states that a table of `states`
rows does not have. Beyond both ends they are refused, for their state if for no other reason, and
the table stays. A state that counts from the end is treated as the one that it counts to, and
where the cell of that row is `free`, the entry is put there. -/
structure CountsFromEnd {τ : Type} (states : Nat) (symbolFits : Prop) (free : Nat → Prop)
    (put : Nat → τ) (update : Int → EStateM TableError τ Unit) (table : τ) : Prop where
  beyond : ∀ state, state < -(states : Int) ∨ (states : Int) ≤ state →
    ∃ e, (update state).run table = .error e table ∧ (symbolFits → e = .noSuchState)
  counted : ∀ state, state < 0 → -(states : Int) ≤ state →
    ((∃ left, (update state).run table = .ok () left) ↔
      ∃ left, (update (state + states)).run table = .ok () left) ∧
    leftBy ((update state).run table) = leftBy ((update (state + states)).run table)
  lands : symbolFits → ∀ (state : Int) (row : Nat), state < 0 → state + states = row → free row →
    (update state).run table = .ok () (put row)

end Table

/-! ## Action tables -/

namespace ActionTable

variable {table : ActionTable} {state terminal entry : Int}

/-- A conflict names the state that was given; all else is as for the state that it counts
to. -/
theorem run_update_counted (hneg : state < 0) (hlow : -(table.states : Int) ≤ state) :
    ((∃ left, (update state terminal entry).run table = .ok () left) ↔
      ∃ left, (update (state + table.states) terminal entry).run table = .ok () left) ∧
    leftBy ((update state terminal entry).run table) =
      leftBy ((update (state + table.states) terminal entry).run table) := by
  have hsame : statePosition table.rows.length (state + table.states) =
      statePosition table.rows.length state := statePosition_add hneg hlow
  rw [run_update, run_update, store, store, hsame]
  cases symbolIndex .terminalOutOfRange table.terminals terminal with
  | error e => exact ⟨Iff.rfl, rfl⟩
  | ok t =>
      have hstate : statePosition table.rows.length state =
          .ok (state + table.states).toNat := statePosition_fromEnd hneg hlow
      simp only [ok_bind, hstate]
      cases (table.rows.getD (state + table.states).toNat Row.empty).get? t with
      | none => exact ⟨Iff.rfl, rfl⟩
      | some stored =>
          -- A conflict is worded with the state as it was given, so only the ends agree.
          by_cases heq : stored = entry
          · simp [heq]
          · simp [heq, leftBy]

theorem countsFromEnd (table : ActionTable) (terminal entry : Int) :
    CountsFromEnd table.states (0 ≤ terminal ∧ terminal < table.terminals)
      (fun row => table.cell? row terminal.toNat = none)
      (fun row => table.put row terminal.toNat entry)
      (fun state => update state terminal entry) table where
  beyond _ h := run_looks_beyond table h
  counted _ hneg hlow := run_update_counted hneg hlow
  lands hrange state row hneg hrow hfree := by
    have hnames : Names table.states table.terminals state terminal row terminal.toNat := by
      refine ⟨?_, by omega, by omega⟩
      rw [position?_of_neg hneg (by omega), hrow, Int.toNat_natCast]
    rw [run_update, store_of_names hnames, hfree]

end ActionTable

/-! ## Goto tables -/

namespace GotoTable

variable {table : GotoTable} {state nonTerminal target : Int}

/-- What an update does to the table, one statement after the other. -/
def update (state nonTerminal target : Int) : EStateM TableError GotoTable Unit := do
  let table ← get
  let symbol ← look (symbolIndex .nonTerminalOutOfRange table.nonTerminals nonTerminal)
  let position ← look (statePosition table.states state)
  set (table.put position symbol target)

/-- An update ends as storing its target does; where this fails, the table is left as it
was. -/
theorem run_update (table : GotoTable) (state nonTerminal target : Int) :
    (update state nonTerminal target).run table =
      match table.store state nonTerminal target with
      | .ok updated => .ok () updated
      | .error e => .error e table := by
  show EStateM.run (look _ >>= _) table = _
  rw [run_look_bind]
  cases hsymbol : symbolIndex .nonTerminalOutOfRange table.nonTerminals nonTerminal with
  | error e =>
      rw [store, hsymbol]
      rfl
  | ok t =>
      show EStateM.run (look _ >>= _) table = _
      rw [run_look_bind]
      cases hstate : statePosition table.states state with
      | error e =>
          have hrows : statePosition table.rows.length state = .error e := hstate
          rw [store, hsymbol, ok_bind, hrows]
          rfl
      | ok st =>
          rw [store_of_names (names_of_ok hsymbol hstate)]
          rfl

/-- An update of a state that counts from the end is that of the state it counts to. -/
theorem run_update_counted (hneg : state < 0) (hlow : -(table.states : Int) ≤ state) :
    (update state nonTerminal target).run table =
      (update (state + table.states) nonTerminal target).run table := by
  have hsame : statePosition table.rows.length (state + table.states) =
      statePosition table.rows.length state := statePosition_add hneg hlow
  rw [run_update, run_update, store, store, hsame]

theorem countsFromEnd (table : GotoTable) (nonTerminal target : Int) :
    CountsFromEnd table.states (0 ≤ nonTerminal ∧ nonTerminal < table.nonTerminals)
      (fun _ => True) (fun row => table.put row nonTerminal.toNat target)
      (fun state => update state nonTerminal target) table where
  beyond _ h := run_looks_beyond table h
  counted _ hneg hlow := by simp only [run_update_counted hneg hlow, and_self]
  lands hrange state row hneg hrow _ := by
    have hnames : Names table.states table.nonTerminals state nonTerminal row
        nonTerminal.toNat := by
      refine ⟨?_, by omega, by omega⟩
      rw [position?_of_neg hneg (by omega), hrow, Int.toNat_natCast]
    rw [run_update, store_of_names hnames]

end GotoTable

/-! ## Histories -/

/-- **Only states beyond both ends are refused.** After any history of updates, an action table
and a goto table leave every row as it was under an update of a state at or behind their number
of states, or further in front of it than they have states. An update of another negative state is
taken for that of the row that the state counts to from the end, and stores its entry there. -/
theorem stray_states_count_from_end (states symbols : Int) :
    (∀ (calls : List ActionCall) (terminal entry : Int),
      let table := (ActionTable.empty states symbols).run calls
      CountsFromEnd states.toNat (0 ≤ terminal ∧ terminal < symbols)
        (fun row => table.cell? row terminal.toNat = none)
        (fun row => table.put row terminal.toNat entry)
        (fun state => ActionTable.update state terminal entry) table) ∧
    ∀ (calls : List GotoCall) (nonTerminal target : Int),
      let table := (GotoTable.empty states symbols).run calls
      CountsFromEnd states.toNat (0 ≤ nonTerminal ∧ nonTerminal < symbols)
        (fun _ => True) (fun row => table.put row nonTerminal.toNat target)
        (fun state => GotoTable.update state nonTerminal target) table := by
  have hrange : ∀ symbol : Int, (0 ≤ symbol ∧ symbol < symbols) =
      (0 ≤ symbol ∧ symbol < (symbols.toNat : Int)) := by
    intro symbol
    exact propext (by omega)
  constructor
  · intro calls terminal entry table
    obtain ⟨hstates, hsymbols⟩ := ActionTable.run_empty_sizes states symbols calls
    rw [hrange, ← hstates, ← hsymbols]
    exact table.countsFromEnd terminal entry
  · intro calls nonTerminal target table
    obtain ⟨hstates, hsymbols⟩ := GotoTable.run_empty_sizes states symbols calls
    rw [hrange, ← hstates, ← hsymbols]
    exact table.countsFromEnd nonTerminal target

/-- A shift of the state minus one, which a table of two states does not have, ends without an
error and lands in the last row. -/
theorem stray_shift_lands :
    ∃ left, (ActionTable.update (-1) 2 (shiftEntry 1)).run (ActionTable.empty 2 3) =
        .ok () left ∧
      ¬ (0 ≤ (-1 : Int) ∧ (-1 : Int) < (ActionTable.empty 2 3).states) ∧
      (ActionTable.empty 2 3).cell? 1 2 = none ∧ left.cell? 1 2 = some (shiftEntry 1) :=
  ⟨_, rfl, by decide, by decide, by decide⟩

end LalrBackend
