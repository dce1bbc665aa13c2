import LalrBackend.Table.Row

/-!
# The action table

For each state and terminal the table says what the parser does: shift, reduce, or, where nothing
is stored, fail. A cell is written once: a second, different entry for it is a conflict. The table
may be compressed with the most frequent reduction of each row as the default of the row.
-/

namespace LalrBackend

open Table

/-- The entry for no action. -/
def errorEntry : Int := 0

/-- The entry for a shift to a state. -/
def shiftEntry (state : Int) : Int :=
  state + 1

/-- The entry for a reduction by a production. -/
def reduceEntry (production : Int) : Int :=
  -(production + 1)

/-- The actions of a parser, a row for each state. -/
structure ActionTable where
  terminals : Nat
  rows : List Row

namespace ActionTable

/-- A table without actions; a negative number of states or terminals counts as none. -/
def empty (states terminals : Int) : ActionTable :=
  ⟨terminals.toNat, List.replicate states.toNat Row.empty⟩

/-- The number of states. -/
def states (table : ActionTable) : Nat :=
  table.rows.length

/-- The row of a state. -/
def row (table : ActionTable) (state : Int) : Except TableError Row :=
  (statePosition table.rows.length state).map fun position =>
    table.rows.getD position Row.empty

/-- Stores an entry. The terminal is looked at before the state, the state before the cell. -/
def store (table : ActionTable) (state terminal entry : Int) : Except TableError ActionTable := do
  let symbol ← symbolIndex .terminalOutOfRange table.terminals terminal
  let position ← statePosition table.rows.length state
  let row := table.rows.getD position Row.empty
  match row.get? symbol with
  | some stored =>
    if stored = entry then return table
    else throw (.refused (.conflictingActions state terminal))
  | none => return { table with rows := table.rows.set position (row.insert symbol entry) }

/-- Stores a shift. -/
def shift (table : ActionTable) (state terminal target : Int) : Except TableError ActionTable :=
  table.store state terminal (shiftEntry target)

/-- Stores a reduction. -/
def reduce (table : ActionTable) (state terminal production : Int) :
    Except TableError ActionTable :=
  table.store state terminal (reduceEntry production)

end ActionTable

namespace Table

/-- The reductions among the entries of a row. -/
def Row.reductions (row : Row) : List Int :=
  row.entries.filter (· < 0)

/-- Of two entries the one that occurs more often, or the greater one of two that tie. -/
def moreFrequent (entries : List Int) (a b : Int) : Int :=
  if entries.count a < entries.count b ∨ (entries.count a = entries.count b ∧ a < b) then b else a

/-- The reduction that occurs most often in a row, of several the one by the earliest production;
the entry for no action if the row has no reduction. -/
def Row.defaultReduction (row : Row) : Int :=
  match row.reductions with
  | [] => errorEntry
  | e :: es => es.foldl (moreFrequent (e :: es)) e

/-- A row as it is laid out. With compaction, the cells of the default reduction are left out. -/
def Row.compressed (compact : Bool) (row : Row) : LayoutRow :=
  if compact then
    let fallback := row.defaultReduction
    if fallback = errorEntry then ⟨row.cells, errorEntry⟩
    else ⟨row.cells.filter (·.2 ≠ fallback), fallback⟩
  else ⟨row.cells, errorEntry⟩

end Table

namespace ActionTable

/-- The default reduction of a state. -/
def defaultReduction (table : ActionTable) (state : Int) : Except TableError Int :=
  (table.row state).map Row.defaultReduction

/-- The table in the compressed layout. -/
def compress (table : ActionTable) (compact : Bool) : List Int :=
  layout (table.rows.map (Row.compressed compact))

end ActionTable

end LalrBackend
