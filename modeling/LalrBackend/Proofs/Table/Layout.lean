import LalrBackend.Table.Row
import LalrBackend.Proofs.Table.Row
import LalrBackend.Proofs.Table.Run

/-!
# Reading the compressed layout

A compressed table is read by following the offset of a state and scanning pairs
from there. Minus one ends the scan as a symbol, but may also stand as an entry;
the rows are laid out without gaps, so a scan never gets out of step with the
pairs and never leaves its row. So a compressed table answers for each cell what the
history of its updates left there, and the default where it left nothing.
-/

namespace LalrBackend.Table

/-! ## The reader -/

/-- Scans pairs until the symbol or minus one is met; nothing, if the list ends before
that. -/
def scanPairs (symbol : Int) : List Int → Option Int
  | s :: entry :: rest => if s = symbol ∨ s = -1 then some entry else scanPairs symbol rest
  | _ => none

/-- The entry that a compressed table has for a state and a symbol. -/
def lookupEntry (table : List Int) (st t : Nat) : Option Int :=
  match table[st]? with
  | some (.ofNat offset) => scanPairs t (table.drop offset)
  | _ => none

/-! ## Tilings -/

/-- A list that is tiled by rows: it begins with their offsets, each row begins where the
one before it ends, and the last one ends with the list. -/
structure Tiled (table : List Int) (rows : List LayoutRow) : Prop where
  empty : rows = [] → table = []
  first : rows ≠ [] → table[0]? = some (rows.length : Int)
  next : ∀ (st : Nat) (row : LayoutRow), rows[st]? = some row → st + 1 < rows.length →
    ∃ offset : Nat, table[st]? = some (offset : Int) ∧
      table[st + 1]? = some ((offset + (2 * row.cells.length + 2) : Nat) : Int)
  last : ∀ (st : Nat) (row : LayoutRow), rows[st]? = some row → st + 1 = rows.length →
    ∃ offset : Nat, table[st]? = some (offset : Int) ∧
      offset + (2 * row.cells.length + 2) = table.length
  content : ∀ (st : Nat) (row : LayoutRow), rows[st]? = some row →
    ∃ offset : Nat, table[st]? = some (offset : Int) ∧
      (table.drop offset).take (2 * row.cells.length + 2) =
        row.cells.flatMap (fun c => [(c.1 : Int), c.2]) ++ [-1, row.fallback]

/-- How much room rows take together. -/
def room (rows : List LayoutRow) : Nat :=
  (rows.flatMap LayoutRow.toList).length

section Layout

variable {rows : List LayoutRow} {row : LayoutRow} {st start : Nat}

@[simp] theorem LayoutRow.toList_length (row : LayoutRow) : row.toList.length = row.size := by
  rw [toList, size, List.length_append, List.length_flatMap]
  simp only [List.length_cons, List.length_nil]
  rw [List.map_const', List.sum_replicate_nat, Nat.mul_comm]

@[simp] theorem offsets_length (start : Nat) (rows : List LayoutRow) :
    (offsets start rows).length = rows.length := by
  induction rows generalizing start with
  | nil => rfl
  | cons row rows ih => simp [offsets, ih]

theorem layout_length (rows : List LayoutRow) :
    (layout rows).length = rows.length + room rows := by
  rw [layout, List.length_append, offsets_length, room]

/-- The offset of a row is that of the first one and the room of the rows between. -/
theorem offsets_getElem? (h : st < rows.length) :
    (offsets start rows)[st]? = some ((start + room (rows.take st) : Nat) : Int) := by
  induction rows generalizing start st with
  | nil => exact absurd h (Nat.not_lt_zero st)
  | cons row rows ih =>
      cases st with
      | zero => simp [offsets, room]
      | succ st =>
          rw [offsets, List.getElem?_cons_succ, ih (Nat.lt_of_succ_lt_succ h)]
          simp [room]
          omega

theorem layout_getElem? (h : st < rows.length) :
    (layout rows)[st]? = some ((rows.length + room (rows.take st) : Nat) : Int) := by
  rw [layout, List.getElem?_append_left (by simpa using h), offsets_getElem? h]

theorem room_take_succ (h : rows[st]? = some row) :
    room (rows.take (st + 1)) = room (rows.take st) + row.size := by
  rw [List.take_add_one, h]
  simp [room]

/-- From its offset on, the list goes on with the row. -/
theorem drop_layout (h : rows[st]? = some row) :
    (layout rows).drop (rows.length + room (rows.take st)) =
      row.toList ++ (rows.drop (st + 1)).flatMap LayoutRow.toList := by
  have hsplit : rows = rows.take st ++ row :: rows.drop (st + 1) := by
    obtain ⟨hst, rfl⟩ := List.getElem?_eq_some_iff.mp h
    rw [← List.drop_eq_getElem_cons hst, List.take_append_drop]
  have hskip : (offsets rows.length rows).length = rows.length := offsets_length _ _
  have hflat : rows.flatMap LayoutRow.toList =
      (rows.take st).flatMap LayoutRow.toList ++
        (row.toList ++ (rows.drop (st + 1)).flatMap LayoutRow.toList) := by
    conv_lhs => rw [hsplit]
    simp
  calc (layout rows).drop (rows.length + room (rows.take st))
      = (rows.flatMap LayoutRow.toList).drop (room (rows.take st)) := by
        rw [layout, List.drop_append, hskip, List.drop_eq_nil_of_le (by omega)]
        simp
    _ = row.toList ++ (rows.drop (st + 1)).flatMap LayoutRow.toList := by
        rw [hflat]
        exact List.drop_left' rfl

/-- **A layout is tiled by its rows.** -/
theorem layout_tiled (rows : List LayoutRow) : Tiled (layout rows) rows where
  empty := by
    rintro rfl
    rfl
  first := by
    intro h
    rw [layout_getElem? (List.length_pos_iff.mpr h)]
    simp [room]
  next := by
    intro st row h hnext
    refine ⟨_, layout_getElem? (Nat.lt_of_succ_lt hnext), ?_⟩
    rw [layout_getElem? hnext, room_take_succ h, Nat.add_assoc]
    rfl
  last := by
    intro st row h hlast
    refine ⟨_, layout_getElem? (by omega), ?_⟩
    have hall : room rows = room (rows.take st) + row.size := by
      rw [← room_take_succ h, hlast, List.take_length]
    rw [layout_length, hall, Nat.add_assoc]
    rfl
  content := by
    intro st row h
    obtain ⟨hst, _⟩ := List.getElem?_eq_some_iff.mp h
    refine ⟨_, layout_getElem? hst, ?_⟩
    rw [drop_layout h]
    exact List.take_left' row.toList_length

end Layout

/-! ## Scans -/

/-- A scan that begins at a row finds the cell of the symbol or the default of the row. -/
theorem scanPairs_cells (t : Nat) (cells : List Cell) (fallback : Int) (rest : List Int) :
    scanPairs t (cells.flatMap (fun c => [(c.1 : Int), c.2]) ++ [-1, fallback] ++ rest) =
      some ((cells.lookup t).getD fallback) := by
  induction cells with
  | nil => simp [scanPairs]
  | cons c cs ih =>
      rw [lookup_cons_cell]
      by_cases h : t = c.1
      · simp [scanPairs, h]
      · have hgoOn : ¬ ((c.1 : Int) = t ∨ (c.1 : Int) = -1) := by omega
        rw [if_neg h, ← ih]
        show (if _ then _ else _) = _
        rw [if_neg hgoOn]
        rfl

theorem Tiled.lookupEntry {table : List Int} {rows : List LayoutRow} (h : Tiled table rows)
    {st : Nat} {row : LayoutRow} (hrow : rows[st]? = some row) (t : Nat) :
    lookupEntry table st t = some ((row.cells.lookup t).getD row.fallback) := by
  obtain ⟨offset, hoffset, hcontent⟩ := h.content st row hrow
  rw [Table.lookupEntry, hoffset]
  show scanPairs t (table.drop offset) = _
  rw [← List.take_append_drop (2 * row.cells.length + 2) (table.drop offset), hcontent]
  exact scanPairs_cells t row.cells row.fallback _

end LalrBackend.Table

namespace LalrBackend

open Table

/-! ## Compressed tables as lookup structures -/

/-- A list of integers that lays out what is stored for the states and symbols of a
table: it is tiled by one row for each state, which has the stored entries in the order
of their symbols, and every scan for a symbol in range ends at its entry or at the
default. -/
structure LaysOut (table : List Int) (states symbols : Nat)
    (stored : Nat → Nat → Option Int) (fallback : Int) : Prop where
  rows : ∃ rows : List LayoutRow, rows.length = states ∧ Tiled table rows ∧
    ∀ (st : Nat) (row : LayoutRow), rows[st]? = some row →
      row.fallback = fallback ∧ Ascending row.cells ∧
        ∀ t e, (t, e) ∈ row.cells ↔ stored st t = some e
  lookups : ∀ st < states, ∀ t < symbols,
    lookupEntry table st t = some ((stored st t).getD fallback)

/-- The layout of rows with one default is a lookup structure for their cells. -/
theorem layout_laysOut (rows : List Row) (symbols : Nat) (fallback : Int) :
    LaysOut (layout (rows.map fun row => ⟨row.cells, fallback⟩)) rows.length symbols
      (cell? rows) fallback where
  rows := by
    refine ⟨_, List.length_map _, layout_tiled _, ?_⟩
    intro st row hrow
    rw [List.getElem?_map] at hrow
    obtain ⟨source, hsource, rfl⟩ := Option.map_eq_some_iff.mp hrow
    refine ⟨rfl, source.ascending, ?_⟩
    intro t e
    rw [cell?, hsource]
    exact Row.get?_eq_some_iff.symm
  lookups := by
    intro st hst t _
    have hrow : (rows.map fun row => (⟨row.cells, fallback⟩ : LayoutRow))[st]? =
        some ⟨rows[st].cells, fallback⟩ := by
      simp [hst]
    rw [(layout_tiled _).lookupEntry hrow t, cell?, List.getElem?_eq_getElem hst]
    rfl

theorem ActionTable.compress_false (table : ActionTable) :
    table.compress false = layout (table.rows.map fun row => ⟨row.cells, 0⟩) := rfl

/-- **The compressed layout is a faithful lookup structure**, of an action table and of a
goto table, after any sequence of updates, some of which may be refused. -/
theorem compress_laysOut_history :
    (∀ (states terminals : Int) (calls : List ActionCall),
      LaysOut (((ActionTable.empty states terminals).run calls).compress false)
        states.toNat terminals.toNat
        (ActionCall.stored states.toNat terminals.toNat calls) 0) ∧
    ∀ (states nonTerminals : Int) (calls : List GotoCall),
      LaysOut ((GotoTable.empty states nonTerminals).run calls).compress
        states.toNat nonTerminals.toNat
        (GotoCall.stored states.toNat nonTerminals.toNat calls) (-1) := by
  constructor
  · intro states terminals calls
    have hcells : cell? ((ActionTable.empty states terminals).run calls).rows =
        ActionCall.stored states.toNat terminals.toNat calls := by
      funext st t
      exact ActionTable.cell?_run states terminals calls st t
    obtain ⟨hstates, _⟩ := ActionTable.run_empty_sizes states terminals calls
    rw [ActionTable.compress_false, ← hcells, ← hstates]
    exact layout_laysOut _ _ 0
  · intro states nonTerminals calls
    have hcells : cell? ((GotoTable.empty states nonTerminals).run calls).rows =
        GotoCall.stored states.toNat nonTerminals.toNat calls := by
      funext st t
      exact GotoTable.cell?_run states nonTerminals calls st t
    obtain ⟨hstates, _⟩ := GotoTable.run_empty_sizes states nonTerminals calls
    rw [← hcells, ← hstates]
    exact layout_laysOut _ _ (-1)

end LalrBackend
