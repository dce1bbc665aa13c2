import LalrBackend.Table.Row

/-!
# The goto table

For each state and non-terminal the table holds the state that follows a reduction. A later entry
replaces an earlier one; in the compressed layout minus one stands for no entry.
-/

namespace LalrBackend

open Table

/-- The transitions of a parser after reductions, a row for each state. -/
structure GotoTable where
  nonTerminals : Nat
  rows : List Row

namespace GotoTable

/-- A table without transitions; a negative number of states or non-terminals counts as none. -/
def empty (states nonTerminals : Int) : GotoTable :=
  ⟨nonTerminals.toNat, List.replicate states.toNat Row.empty⟩

/-- The number of states. -/
def states (table : GotoTable) : Nat :=
  table.rows.length

/-- Stores the state that follows. The non-terminal is looked at before the state. -/
def store (table : GotoTable) (state nonTerminal target : Int) : Except TableError GotoTable := do
  let symbol ← symbolIndex .nonTerminalOutOfRange table.nonTerminals nonTerminal
  let position ← statePosition table.rows.length state
  let row := table.rows.getD position Row.empty
  return { table with rows := table.rows.set position (row.insert symbol target) }

/-- The table in the compressed layout. -/
def compress (table : GotoTable) : List Int :=
  layout (table.rows.map fun row => ⟨row.cells, -1⟩)

end GotoTable

end LalrBackend
