import LalrBackend.Proofs.Packed.Canonical
import LalrBackend.Proofs.Table.BestDefault

/-!
# The capacity of packed action tables

A packed table has sixteen bits for each of its values, and offsets, symbols and entries
share them. So the offset of the last row bounds how much all rows before it may hold, and
shifts and reductions have bounds of their own. Compaction moves no row further back and
brings in no entry that the row does not have, so a table that can be packed can be packed
compacted as well.
-/

namespace LalrBackend

open Table

namespace Table

/-! ## Layouts with values in range -/

section Layout

variable {rows : List LayoutRow} {st st' : Nat}

/-- The values of a layout are the offsets of its rows, the cells, the ends and the
defaults. -/
theorem forall_mem_layout {p : Int → Prop} :
    (∀ v ∈ layout rows, p v) ↔
      (∀ st < rows.length, p ((rows.length + room (rows.take st) : Nat) : Int)) ∧
      ∀ row ∈ rows, (∀ c ∈ row.cells, p c.1 ∧ p c.2) ∧ p (-1) ∧ p row.fallback := by
  have hoffsets : ∀ v, v ∈ offsets rows.length rows ↔
      ∃ st < rows.length, v = ((rows.length + room (rows.take st) : Nat) : Int) := by
    intro v
    rw [List.mem_iff_getElem?]
    constructor
    · rintro ⟨st, hst⟩
      have hlt := (List.getElem?_eq_some_iff.mp hst).1
      rw [offsets_length] at hlt
      rw [offsets_getElem? hlt] at hst
      exact ⟨st, hlt, (Option.some.inj hst).symm⟩
    · rintro ⟨st, hlt, rfl⟩
      exact ⟨st, offsets_getElem? hlt⟩
  have hrow : ∀ row : LayoutRow, (∀ v ∈ row.toList, p v) ↔
      (∀ c ∈ row.cells, p c.1 ∧ p c.2) ∧ p (-1) ∧ p row.fallback := by
    intro row
    simp only [LayoutRow.toList, List.forall_mem_append, List.forall_mem_flatMap,
      List.forall_mem_cons, List.not_mem_nil, false_implies, implies_true, and_true]
  rw [layout, List.forall_mem_append, List.forall_mem_flatMap]
  apply and_congr
  · constructor
    · intro h st hst
      exact h _ ((hoffsets _).mpr ⟨st, hst, rfl⟩)
    · intro h v hv
      obtain ⟨st, hst, rfl⟩ := (hoffsets v).mp hv
      exact h st hst
  · exact forall₂_congr fun row _ => hrow row

/-- Rows further back begin further back. -/
theorem room_take_mono (h : st ≤ st') : room (rows.take st) ≤ room (rows.take st') := by
  obtain ⟨rest, hrest⟩ : rows.take st <+: rows.take st' := List.take_prefix_take_left h
  rw [← hrest, room, room, List.flatMap_append, List.length_append]
  exact Nat.le_add_right _ _

/-- What rows have to satisfy if all values of their layout are to be in range: the last row
begins early enough, and what the rows hold is in range. -/
structure FitsLayout (count : Nat) (rowOf : Nat → LayoutRow) : Prop where
  offset : 0 < count →
    count + ((List.range (count - 1)).map fun st => (rowOf st).size).sum ≤ 0x7fff
  cells : ∀ st < count, ∀ c ∈ (rowOf st).cells, c.1 ≤ 0x7fff ∧ Packed.InRange c.2
  fallback : ∀ st < count, Packed.InRange (rowOf st).fallback

theorem layout_inRange_iff (count : Nat) (rowOf : Nat → LayoutRow) :
    (∀ v ∈ layout ((List.range count).map rowOf), Packed.InRange v) ↔
      FitsLayout count rowOf := by
  have hroom : ∀ k < count, room (((List.range count).map rowOf).take k) =
      ((List.range k).map fun st => (rowOf st).size).sum := by
    intro k hk
    rw [room_eq_sum, ← List.map_take, List.take_range, Nat.min_eq_left (Nat.le_of_lt hk),
      List.map_map]
    rfl
  rw [forall_mem_layout, List.length_map, List.length_range]
  constructor
  · rintro ⟨hoffsets, hrows⟩
    have hrow : ∀ st < count, _ := fun st hst =>
      hrows (rowOf st) (List.mem_map_of_mem (List.mem_range.mpr hst))
    refine ⟨?_, ?_, ?_⟩
    · intro hpos
      obtain ⟨_, hlast⟩ := hoffsets (count - 1) (by omega)
      rw [hroom _ (by omega)] at hlast
      omega
    · intro st hst c hc
      obtain ⟨⟨_, hsymbol⟩, hentry⟩ := (hrow st hst).1 c hc
      exact ⟨by omega, hentry⟩
    · intro st hst
      exact (hrow st hst).2.2
  · rintro ⟨hoffset, hcells, hfallback⟩
    constructor
    · -- No row begins further back than the last one.
      intro st hst
      have hlast := hoffset (by omega)
      rw [← hroom _ (by omega)] at hlast
      have hmono : room (((List.range count).map rowOf).take st) ≤
          room (((List.range count).map rowOf).take (count - 1)) := room_take_mono (by omega)
      exact ⟨by omega, by omega⟩
    · intro row hrow
      obtain ⟨st, hst, rfl⟩ := List.mem_map.mp hrow
      rw [List.mem_range] at hst
      refine ⟨?_, by decide, hfallback st hst⟩
      intro c hc
      obtain ⟨hsymbol, hentry⟩ := hcells st hst c hc
      exact ⟨⟨by omega, by omega⟩, hentry⟩

end Layout

end Table

/-! ## The capacity of an action table -/

namespace ActionTable

variable {table : ActionTable} {st t : Nat} {e : Int}

/-- Where the last row begins: behind the offsets and the rows before it, which take two
integers for each entry and two more. -/
def lastOffset (table : ActionTable) : Nat :=
  table.states +
    ((List.range (table.states - 1)).map fun st => 2 * table.countCells st (fun _ => true) + 2).sum

/-- Why a table is too large to be packed. -/
inductive ExceedsCapacity (table : ActionTable) : Prop where
  | rows (hsome : 0 < table.states) (h : 0x7fff < table.lastOffset)
  | terminal {st t : Nat} {entry : Int} (hcell : table.cell? st t = some entry) (h : 0x7fff < t)
  | shift {st t : Nat} {target : Int} (hcell : table.cell? st t = some (shiftEntry target))
      (h : 0x7ffe < target)
  | reduce {st t : Nat} {production : Int}
      (hcell : table.cell? st t = some (reduceEntry production)) (h : 0x7fff < production)

theorem HoldsActions.size_plain (h : table.HoldsActions) (st : Nat) :
    ((table.rowAt st).compressed false).size =
      2 * table.countCells st (fun _ => true) + 2 := by
  rw [h.countCells_eq, List.countP_true, Row.entries, List.length_map]
  rfl

/-- An entry is in range if a shift or a reduction of the table is. -/
theorem HoldsActions.inRange_entry (h : table.HoldsActions) (hfits : ¬ table.ExceedsCapacity)
    (hcell : table.cell? st t = some e) : Packed.InRange e := by
  rcases h.actions st t e hcell with ⟨target, htarget, rfl⟩ | ⟨production, hproduction, rfl⟩
  · have hlow : target ≤ 0x7ffe := by
      by_contra hlarge
      exact hfits (.shift hcell (by omega))
    rw [shiftEntry]
    exact ⟨by omega, by omega⟩
  · have hlow : production ≤ 0x7fff := by
      by_contra hlarge
      exact hfits (.reduce hcell (by omega))
    rw [reduceEntry]
    exact ⟨by omega, by omega⟩

theorem lt_states_of_cell? (hcell : table.cell? st t = some e) : st < table.states := by
  obtain ⟨row, hrow, _⟩ := Option.bind_eq_some_iff.mp hcell
  exact (List.getElem?_eq_some_iff.mp hrow).1

/-- **A table fits exactly if it does not exceed one of the bounds.** -/
theorem HoldsActions.fitsLayout_plain_iff (h : table.HoldsActions) :
    FitsLayout table.states (fun st => (table.rowAt st).compressed false) ↔
      ¬ table.ExceedsCapacity := by
  have hoffset : table.states + ((List.range (table.states - 1)).map fun st =>
      ((table.rowAt st).compressed false).size).sum = table.lastOffset := by
    simp only [h.size_plain, lastOffset]
  constructor
  · rintro ⟨hlast, hcells, _⟩ hexceeds
    -- Each bound that is exceeded is one of a value of the layout.
    have hcell : ∀ {st t e}, table.cell? st t = some e → t ≤ 0x7fff ∧ Packed.InRange e :=
      fun {st t e} hcell => hcells st (lt_states_of_cell? hcell) (t, e) (mem_cells_rowAt.mpr hcell)
    cases hexceeds with
    | rows hsome hlarge =>
        have hfits := hlast hsome
        rw [hoffset] at hfits
        omega
    | terminal hstored hlarge =>
        have hfits := (hcell hstored).1
        omega
    | shift hstored hlarge =>
        obtain ⟨_, hfits⟩ := (hcell hstored).2
        rw [shiftEntry] at hfits
        omega
    | reduce hstored hlarge =>
        obtain ⟨hfits, _⟩ := (hcell hstored).2
        rw [reduceEntry] at hfits
        omega
  · intro hfits
    refine ⟨?_, ?_, ?_⟩
    · intro hsome
      rw [hoffset]
      by_contra hlarge
      exact hfits (.rows hsome (by omega))
    · intro st _ c hc
      have hstored := mem_cells_rowAt.mp hc
      refine ⟨?_, h.inRange_entry hfits hstored⟩
      by_contra hlarge
      exact hfits (.terminal hstored (by omega))
    · intro st _
      show Packed.InRange errorEntry
      decide

/-- **Compaction never makes a table that fits too large.** -/
theorem HoldsActions.fitsLayout_compact (h : table.HoldsActions)
    (hplain : FitsLayout table.states fun st => (table.rowAt st).compressed false) :
    FitsLayout table.states fun st => (table.rowAt st).compressed true := by
  have hcompact : ∀ st, (table.rowAt st).compressed true =
      (table.rowAt st).withDefault (table.rowAt st).defaultReduction :=
    fun st => Row.compressed_true fun c hc => h.ne_error (mem_cells_rowAt.mp hc)
  simp only [hcompact]
  obtain ⟨hoffset, hcells, _⟩ := hplain
  refine ⟨?_, ?_, ?_⟩
  · intro hsome
    have hsizes : ((List.range (table.states - 1)).map fun st =>
        ((table.rowAt st).withDefault (table.rowAt st).defaultReduction).size).sum ≤
        ((List.range (table.states - 1)).map fun st =>
          ((table.rowAt st).compressed false).size).sum := by
      apply List.sum_le_sum
      intro st _
      have hsize := (table.rowAt st).size_withDefault (table.rowAt st).defaultReduction
      omega
    have hlast := hoffset hsome
    omega
  · intro st hst c hc
    exact hcells st hst c (List.mem_of_mem_filter hc)
  · intro st hst
    show Packed.InRange (table.rowAt st).defaultReduction
    rcases (table.rowAt st).defaultReduction_cases with hnone | hmem
    · rw [hnone]
      decide
    · -- The default of a row is an entry of the row.
      obtain ⟨_, t, hentry⟩ := Row.mem_reductions.mp hmem
      exact (hcells st hst _ (Row.get?_eq_some_iff.mp hentry)).2

/-- **A table can be packed exactly if no bound is exceeded.** After any history of updates,
the plain table is refused exactly if its last row begins too late, or a terminal, a target
of a shift or a production is too large. It is refused for the first value that is out of
range, which is named if it is short enough to be written. A table that can be packed plain
can be packed compacted. -/
theorem encode_compress_capacity (states terminals : Int) {calls : List ActionCall}
    (hcalls : ∀ call ∈ calls, 0 ≤ call.operand) :
    let table := (empty states terminals).run calls
    ((∃ e, Packed.encode (table.compress false) = .error e) ↔ table.ExceedsCapacity) ∧
      (∀ e, Packed.encode (table.compress false) = .error e →
        ∃ v, Packed.FirstOutOfRange (table.compress false) v ∧ e = .valueTooWide v ∧
          e.message? = if v.natAbs < 10 ^ Text.mostDigits then
            some ("Table value " ++ Text.decimal v ++ " doesn't fit in 16 bits") else none) ∧
      ((∃ units, Packed.encode (table.compress false) = .ok units) →
        ∃ units, Packed.encode (table.compress true) = .ok units) := by
  intro table
  have h : table.HoldsActions := holdsActions_run hcalls
  have hrange : ∀ compact, (∀ v ∈ table.compress compact, Packed.InRange v) ↔
      FitsLayout table.states fun st => (table.rowAt st).compressed compact := by
    intro compact
    rw [compress_eq_rowAt]
    exact layout_inRange_iff _ _
  refine ⟨?_, ?_, ?_⟩
  · rw [Packed.exists_encode_eq_error_iff, ← not_iff_not, ← h.fitsLayout_plain_iff, ← hrange]
    push Not
    rfl
  · intro e he
    obtain ⟨v, hfirst, rfl⟩ := Packed.encode_eq_error_iff.mp he
    exact ⟨v, hfirst, rfl, Packed.message?_valueTooWide v⟩
  · rintro ⟨units, hunits⟩
    have hplain : ∀ v ∈ table.compress false, Packed.InRange v :=
      fun v hv => Packed.fits_iff.mp ((Packed.encode_eq_ok_iff.mp hunits).1 v hv)
    have hcompact := (hrange true).mpr (h.fitsLayout_compact ((hrange false).mp hplain))
    exact ⟨_, Packed.encode_of_inRange hcompact⟩

/-- The largest shift that fits, and a shift to the state after it, which does not. -/
theorem encode_compress_capacity_largestShift :
    let fits : List ActionCall := [.shift 0 1 0x7ffe, .reduce 0 0 0x7fff]
    let exceeds : List ActionCall := [.shift 0 1 0x7fff]
    (∀ call ∈ fits, 0 ≤ call.operand) ∧ (∀ call ∈ exceeds, 0 ≤ call.operand) ∧
      (∃ units, Packed.encode (((empty 1 2).run fits).compress true) = .ok units) ∧
      ∃ e, Packed.encode (((empty 1 2).run exceeds).compress false) = .error e := by
  intro fits exceeds
  have hfits : ∀ call ∈ fits, 0 ≤ call.operand := by decide
  have hexceeds : ∀ call ∈ exceeds, 0 ≤ call.operand := by decide
  obtain ⟨_, _, hcompact⟩ := encode_compress_capacity 1 2 hfits
  obtain ⟨hrefused, _, _⟩ := encode_compress_capacity 1 2 hexceeds
  have hcell : ((empty 1 2).run exceeds).cell? 0 1 = some (shiftEntry 0x7fff) := rfl
  exact ⟨hfits, hexceeds, hcompact ⟨_, rfl⟩, hrefused.mpr (.shift hcell (by decide))⟩

/-- Not every table that exceeds a bound is refused with the value named: the value may be
too long to be written. -/
theorem capacity_overlong_unnamed :
    ¬ ∀ (states terminals : Int) (calls : List ActionCall), (∀ call ∈ calls, 0 ≤ call.operand) →
      let table := (empty states terminals).run calls
      (∃ e, Packed.encode (table.compress false) = .error e ∧ e.message?.isSome) ↔
        table.ExceedsCapacity := by
  intro h
  have hoperand : (0 : Int) ≤ Packed.overlong := by decide +kernel
  have hlarge : 0x7ffe < Packed.overlong := by decide +kernel
  have hwide : ¬ Packed.InRange (Packed.overlong + 1) := by decide +kernel
  have hlong : ¬ (Packed.overlong + 1).natAbs < 10 ^ Text.mostDigits := by decide +kernel
  have hvalues : ((empty 1 1).run [.shift 0 0 Packed.overlong]).compress false =
      [1, 0, Packed.overlong + 1, -1, 0] := rfl
  have hencode : Packed.encode [1, 0, Packed.overlong + 1, -1, 0] =
      .error (.valueTooWide (Packed.overlong + 1)) :=
    Packed.encode_eq_error_iff.mpr ⟨_, ⟨[1, 0], [-1, 0], rfl, by decide, hwide⟩, rfl⟩
  have hcalls : ∀ call ∈ [ActionCall.shift 0 0 Packed.overlong], 0 ≤ call.operand := by
    intro call hcall
    obtain rfl := List.mem_singleton.mp hcall
    exact hoperand
  have hcell : ((empty 1 1).run [.shift 0 0 Packed.overlong]).cell? 0 0 =
      some (shiftEntry Packed.overlong) := rfl
  obtain ⟨e, he, hnamed⟩ := (h 1 1 _ hcalls).mpr (.shift hcell hlarge)
  rw [hvalues, hencode] at he
  cases he
  rw [Packed.message?_valueTooWide, if_neg hlong] at hnamed
  cases hnamed

end ActionTable

end LalrBackend
