import LalrBackend.GeneratorError
import LalrBackend.Position

/-!
# Sparse rows

A table has a row for each state. A state is named by its position, or by a negative number that
counts from the last state backwards; a symbol is named by its index alone. A row holds an entry for
some of the symbols. Its cells are kept in ascending order of their symbols, each symbol at most
once. A table is laid out as one list of integers: first the offset of each row, then the rows. A
row is its cells as pairs of symbol and entry, then a pair of minus one and the default of the row.
-/

namespace LalrBackend.Table

/-! ## States and symbols -/

/-- Why a table cannot be updated or asked. -/
inductive TableError where
  | refused (error : GeneratorError)
  | noSuchState
  deriving Repr, DecidableEq

/-- The position of a state among `count` states. -/
def statePosition (count : Nat) (state : Int) : Except TableError Nat :=
  match position? count state with
  | some position => .ok position
  | none => .error .noSuchState

/-- A symbol index below `count`, as an error of the given wording if it is out of range. -/
def symbolIndex (error : Int → GeneratorError) (count : Nat) (symbol : Int) :
    Except TableError Nat :=
  if 0 ≤ symbol ∧ symbol < count then .ok symbol.toNat else .error (.refused (error symbol))

/-! ## Rows -/

/-- A symbol index and the entry stored for it. -/
abbrev Cell := Nat × Int

/-- Puts a cell at its place, replacing the cell of the same symbol. -/
def insertCell (symbol : Nat) (entry : Int) : List Cell → List Cell
  | [] => [(symbol, entry)]
  | c :: cs =>
    if symbol < c.1 then (symbol, entry) :: c :: cs
    else if c.1 = symbol then (symbol, entry) :: cs
    else c :: insertCell symbol entry cs

/-- A cell of the result is the inserted one or was there before. -/
theorem mem_insertCell {symbol : Nat} {entry : Int} {cells : List Cell} {c : Cell}
    (h : c ∈ insertCell symbol entry cells) : c = (symbol, entry) ∨ c ∈ cells := by
  induction cells with
  | nil => simpa [insertCell] using h
  | cons d ds ih =>
    rw [insertCell] at h
    split at h
    · simpa using h
    · split at h
      · rcases List.mem_cons.1 h with h | h
        · exact Or.inl h
        · exact Or.inr (List.mem_cons_of_mem _ h)
      · rcases List.mem_cons.1 h with h | h
        · exact Or.inr (h ▸ List.mem_cons_self)
        · exact (ih h).imp_right (List.mem_cons_of_mem _)

/-- The symbols of the cells ascend. -/
def Ascending (cells : List Cell) : Prop :=
  cells.Pairwise fun a b => a.1 < b.1

/-- Insertion keeps the symbols ascending. -/
theorem Ascending.insertCell {cells : List Cell} (h : Ascending cells) (symbol : Nat)
    (entry : Int) : Ascending (insertCell symbol entry cells) := by
  induction cells with
  | nil => exact List.pairwise_singleton _ _
  | cons d ds ih =>
    obtain ⟨first, rest⟩ := List.pairwise_cons.1 h
    rw [Table.insertCell]
    split
    next before =>
      refine List.pairwise_cons.2 ⟨fun c mem => ?_, h⟩
      rcases List.mem_cons.1 mem with rfl | mem
      · exact before
      · exact Nat.lt_trans before (first c mem)
    next notBefore =>
      split
      next same => exact List.pairwise_cons.2 ⟨fun c mem => same ▸ first c mem, rest⟩
      next other =>
        refine List.pairwise_cons.2 ⟨fun c mem => ?_, ih rest⟩
        rcases mem_insertCell mem with rfl | mem
        · exact Nat.lt_of_le_of_ne (Nat.le_of_not_lt notBefore) other
        · exact first c mem

/-- A row of a parse table. -/
structure Row where
  cells : List Cell
  ascending : Ascending cells

/-- The row without entries. -/
def Row.empty : Row :=
  ⟨[], List.Pairwise.nil⟩

/-- The entry stored for a symbol. -/
def Row.get? (row : Row) (symbol : Nat) : Option Int :=
  row.cells.lookup symbol

/-- Stores an entry for a symbol. -/
def Row.insert (row : Row) (symbol : Nat) (entry : Int) : Row :=
  ⟨insertCell symbol entry row.cells, row.ascending.insertCell symbol entry⟩

/-- The entries of a row, in the order of their symbols. -/
def Row.entries (row : Row) : List Int :=
  row.cells.map (·.2)

/-! ## The compressed layout -/

/-- A row that is to be laid out: its cells and its default. -/
structure LayoutRow where
  cells : List Cell
  fallback : Int

/-- How many integers a row takes. -/
def LayoutRow.size (row : LayoutRow) : Nat :=
  2 * row.cells.length + 2

/-- The integers of a row. -/
def LayoutRow.toList (row : LayoutRow) : List Int :=
  row.cells.flatMap (fun c => [(c.1 : Int), c.2]) ++ [-1, row.fallback]

/-- The offsets of rows that follow each other from `start` on. -/
def offsets (start : Nat) : List LayoutRow → List Int
  | [] => []
  | row :: rows => (start : Int) :: offsets (start + row.size) rows

/-- A whole table. -/
def layout (rows : List LayoutRow) : List Int :=
  offsets rows.length rows ++ rows.flatMap LayoutRow.toList

end LalrBackend.Table
