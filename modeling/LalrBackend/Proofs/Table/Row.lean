import LalrBackend.Table.Row
import Mathlib.Tactic.Common

/-!
# Rows as partial functions

A row is read as a partial function from symbols to entries: an insertion updates
the function at one symbol, and the cells of the row are its graph.
-/

namespace LalrBackend.Table

variable {symbol t : Nat} {entry e : Int}

/-! ## Cells -/

theorem lookup_cons_cell (c : Cell) (cells : List Cell) :
    (c :: cells).lookup t = if t = c.1 then some c.2 else cells.lookup t := by
  rw [List.lookup_cons]
  by_cases h : t = c.1
  · simp [h]
  · simp [h, beq_false_of_ne h]

theorem lookup_insertCell (cells : List Cell) :
    (insertCell symbol entry cells).lookup t =
      if t = symbol then some entry else cells.lookup t := by
  induction cells with
  | nil => rw [insertCell, lookup_cons_cell]
  | cons c cs ih =>
      rw [insertCell]
      by_cases hlt : symbol < c.1
      · rw [if_pos hlt, lookup_cons_cell]
      · rw [if_neg hlt]
        by_cases heq : c.1 = symbol
        · rw [if_pos heq, lookup_cons_cell, lookup_cons_cell, heq]
          by_cases h : t = symbol
          · simp [h]
          · simp [h]
        · rw [if_neg heq, lookup_cons_cell, lookup_cons_cell, ih]
          by_cases h : t = c.1
          · have hne : t ≠ symbol := fun hsymbol => heq (h.symm.trans hsymbol)
            rw [if_pos h, if_neg hne, if_pos h]
          · rw [if_neg h, if_neg h]

/-- The symbols of the cells are different from each other. -/
def Distinct (cells : List Cell) : Prop :=
  cells.Pairwise fun a b => a.1 ≠ b.1

theorem Ascending.distinct {cells : List Cell} (h : Ascending cells) : Distinct cells :=
  h.imp Nat.ne_of_lt

/-- Among cells of different symbols, those that are found are all there are. -/
theorem Distinct.lookup_eq_some_iff {cells : List Cell} (h : Distinct cells) :
    cells.lookup t = some e ↔ (t, e) ∈ cells := by
  induction cells with
  | nil => simp
  | cons c cs ih =>
      obtain ⟨hfirst, hrest⟩ := List.pairwise_cons.mp h
      rw [lookup_cons_cell, List.mem_cons]
      by_cases hs : t = c.1
      · subst hs
        have hnot : (c.1, e) ∉ cs := fun hmem => hfirst (c.1, e) hmem rfl
        rw [if_pos rfl]
        simp [hnot, Prod.ext_iff, eq_comm]
      · rw [if_neg hs, ih hrest]
        simp [Prod.ext_iff, hs]

/-- Among ascending cells, those that are found are all there are. -/
theorem Ascending.lookup_eq_some_iff {cells : List Cell} (h : Ascending cells) :
    cells.lookup t = some e ↔ (t, e) ∈ cells :=
  h.distinct.lookup_eq_some_iff

/-! ## Rows -/

@[simp] theorem Row.get?_empty : Row.empty.get? t = none := rfl

theorem Row.get?_insert (row : Row) :
    (row.insert symbol entry).get? t = if t = symbol then some entry else row.get? t :=
  lookup_insertCell row.cells

theorem Row.get?_eq_some_iff {row : Row} : row.get? t = some e ↔ (t, e) ∈ row.cells :=
  row.ascending.lookup_eq_some_iff

/-! ## Rows of a table -/

/-- The entry in the cell of a state and a symbol. -/
def cell? (rows : List Row) (st t : Nat) : Option Int :=
  rows[st]?.bind (Row.get? · t)

/-- Rows with an entry put into one cell. -/
def putCell (rows : List Row) (st t : Nat) (entry : Int) : List Row :=
  rows.set st ((rows.getD st Row.empty).insert t entry)

section Rows

variable {rows : List Row} {st st' t' : Nat}

@[simp] theorem putCell_length : (putCell rows st t entry).length = rows.length := by
  simp [putCell]

theorem getD_get? (h : st < rows.length) :
    (rows.getD st Row.empty).get? t = cell? rows st t := by
  simp [cell?, List.getD_eq_getElem?_getD, List.getElem?_eq_getElem h]

theorem cell?_putCell (h : st < rows.length) :
    cell? (putCell rows st t entry) st' t' =
      if st' = st ∧ t' = t then some entry else cell? rows st' t' := by
  by_cases hst : st' = st
  · subst hst
    have hput : cell? (putCell rows st' t entry) st' t' =
        ((rows.getD st' Row.empty).insert t entry).get? t' := by
      simp [cell?, putCell, h]
    rw [hput, Row.get?_insert, getD_get? h]
    simp
  · have hne : st ≠ st' := fun heq => hst heq.symm
    simp [cell?, putCell, hst, hne]

@[simp] theorem cell?_replicate_empty (n : Nat) :
    cell? (List.replicate n Row.empty) st t = none := by
  rw [cell?, List.getElem?_replicate]
  split <;> rfl

end Rows

end LalrBackend.Table
